import NanHost.Proofs.Confinement
import NanHost.Proofs.Engine.Events

/-!
# Entities — what a report of the firmware is about

A report of the firmware is about a session, a data interface or a data path, and so is the answer to
a command about one that is there. All that it reads is what the engine holds of this entity and what
the entities have in common, and all that it writes is what the engine holds of the entity.

## What is proved

- `Coherent.confined`: whatever is reported of an entity is confined to it.
- `Engine.ext_content`: an engine is made up of its ledger, of what the entities have in common, and of
  what it holds of each of them.

The answer to the start of a session or to the initiation of a path is about no entity: it brings the
number of one which the command did not name. Nor is anything that is about the interface.
-/

namespace NanHost

/-- What an engine keeps under a name or a number of its own. -/
inductive Entity where
  | session (id : SessionId)
  | dataInterface (name : String)
  | path (id : DataPathId)
  deriving DecidableEq

/-- The entity that a command is about, if it is there. -/
def PendingContext.entity? : PendingContext → Option Entity
  | session id => some (.session id)
  | dataInterface name => some (.dataInterface name)
  | dataPath id => some (.path id)
  | interface | newSession _ | newDataPath => none

/-- The entity that a report is about; the answer to a command is about what the command on file is
about. -/
def FirmwareEvent.entity? (ledger : Ledger) : FirmwareEvent → Option Entity
  | sessionMatched id .. | messageReceived id .. | sessionTerminated id _ => some (.session id)
  | dataPathRequested id .. | dataPathConfirmed id .. | dataPathTerminated id _ => some (.path id)
  | commandCompleted txn _ => (ledger.get? txn).bind (·.context.entity?)
  | identityChanged _ | interfaceDown _ => none

/-- The ledger after a report of an entity: a command that is answered leaves. -/
def Ledger.afterReport (ledger : Ledger) : FirmwareEvent → Ledger
  | .commandCompleted txn _ => ledger.rollback txn
  | _ => ledger

/-- Commands may leave in either order. -/
theorem Ledger.afterReport_comm (ledger : Ledger) (first second : FirmwareEvent) :
    (ledger.afterReport first).afterReport second =
      (ledger.afterReport second).afterReport first := by
  cases first with
  | commandCompleted txn =>
    cases second with
    | commandCompleted other =>
      have pending : (ledger.pending.erase txn).erase other = (ledger.pending.erase other).erase txn :=
        Std.ExtTreeMap.ext_getElem? fun key => by
          simp only [Tables.getElem?_erase]
          split <;> split <;> rfl
      simp only [afterReport, rollback, pending]
    | _ => rfl
  | _ => cases second <;> rfl

/-- What an engine holds of an entity. -/
inductive Content where
  | session (session : Option Session)
  | dataInterface (state : Option DataInterfaceState)
  /-- Events may have come ahead of the number of a path. -/
  | path (path : Option DataPath × Option (List HeldEvent))
  deriving DecidableEq

/-- What the entities of an engine have in common. -/
structure Surroundings where
  config : EngineConfig
  capabilities : CapabilityCache
  interface : Interface
  starting : Std.ExtTreeMap TransactionId DiscoveryConfig
  initiating : Std.ExtTreeMap TransactionId InitiateRequest
  graceMs : UInt64

namespace Engine

/-- What an engine holds of an entity. -/
def content (engine : Engine) : Entity → Content
  | .session id => .session (engine.sessions.get? id)
  | .dataInterface name => .dataInterface (engine.dataInterfaces.state? name)
  | .path id => .path (engine.paths.content id)

/-- What the entities of an engine have in common. -/
def surroundings (engine : Engine) : Surroundings where
  config := engine.config
  capabilities := engine.capabilities
  interface := engine.interface
  starting := engine.sessions.starting
  initiating := engine.paths.initiating
  graceMs := engine.paths.graceMs

/-- **An engine is made up of its ledger, what the entities have in common, and the entities.** -/
theorem ext_content {engine engine' : Engine} (ledger : engine.ledger = engine'.ledger)
    (surroundings : engine.surroundings = engine'.surroundings)
    (content : ∀ entity, engine.content entity = engine'.content entity) : engine = engine' := by
  have sessions : engine.sessions.sessions = engine'.sessions.sessions :=
    Std.ExtTreeMap.ext_getElem? fun id => Content.session.inj (content (.session id))
  have interfaces : engine.dataInterfaces.interfaces = engine'.dataInterfaces.interfaces :=
    Std.ExtTreeMap.ext_getElem? fun name => Content.dataInterface.inj (content (.dataInterface name))
  have paths : engine.paths.paths = engine'.paths.paths :=
    Std.ExtTreeMap.ext_getElem? fun id =>
      (Prod.mk.inj (Content.path.inj (content (.path id)))).1
  have held : engine.paths.held = engine'.paths.held :=
    Std.ExtTreeMap.ext_getElem? fun id =>
      (Prod.mk.inj (Content.path.inj (content (.path id)))).2
  obtain ⟨_, _, _, _, ⟨_⟩, ⟨_, _⟩, _, _, _, _⟩ := engine
  obtain ⟨_, _, _, _, ⟨_⟩, ⟨_, _⟩, _, _, _, _⟩ := engine'
  simp_all [Engine.surroundings]

/-- The reaction is about one entity. -/
abbrev ConfinedTo (entity : Entity) (react : Engine → Reaction) : Prop :=
  Confined content surroundings entity (fun engine => (react engine).1)
    (fun engine => (react engine).2)

end Engine

namespace Confined

variable {entity : Entity} {react : Engine → Reaction}

/-- What an operation of the sessions that is about one session makes of the engine. -/
theorem sessions {id : SessionId} {next : SessionRegistry → SessionRegistry}
    {told : SessionRegistry → List Notification}
    (confined : SessionRegistry.ConfinedTo id next told) :
    Engine.ConfinedTo (.session id) fun engine =>
      ({ engine with sessions := next engine.sessions }, told engine.sessions) where
  around engine := by
    have starting := confined.around engine.sessions
    simp [Engine.surroundings, starting]
  elsewhere engine other apart := by
    cases other with
    | session other =>
      exact congrArg Content.session (confined.elsewhere engine.sessions fun same => apart (same ▸ rfl))
    | dataInterface | path => rfl
  here common entry := by
    obtain ⟨after, same⟩ := confined.here (congrArg Surroundings.starting common)
      (Content.session.inj entry)
    exact ⟨congrArg Content.session after, same⟩

/-- What an operation of the data interfaces that is about one of them makes of the engine. -/
theorem dataInterfaces {name : String} {next : DataInterfaceTable → DataInterfaceTable}
    (confined : DataInterfaceTable.ConfinedTo name next) (told : List Notification) :
    Engine.ConfinedTo (.dataInterface name) fun engine =>
      ({ engine with dataInterfaces := next engine.dataInterfaces }, told) where
  around _ := rfl
  elsewhere engine other apart := by
    cases other with
    | dataInterface other =>
      exact congrArg Content.dataInterface
        (confined.elsewhere engine.dataInterfaces fun same => apart (same ▸ rfl))
    | session | path => rfl
  here _ entry :=
    ⟨congrArg Content.dataInterface (confined.here rfl (Content.dataInterface.inj entry)).1, rfl⟩

/-- What an operation of the paths that is about one path makes of the engine. -/
theorem paths {id : DataPathId} {next : DataPathTable → DataPathTable}
    {told : DataPathTable → List Notification} (confined : DataPathTable.ConfinedTo id next told) :
    Engine.ConfinedTo (.path id) fun engine =>
      ({ engine with paths := next engine.paths }, told engine.paths) where
  around engine := by
    obtain ⟨initiating, graceMs⟩ := Prod.mk.inj (confined.around engine.paths)
    simp [Engine.surroundings, initiating, graceMs]
  elsewhere engine other apart := by
    cases other with
    | path other =>
      exact congrArg Content.path (confined.elsewhere engine.paths fun same => apart (same ▸ rfl))
    | session | dataInterface => rfl
  here {engine engine'} common entry := by
    have shared : engine.paths.shared = engine'.paths.shared :=
      Prod.ext (congrArg Surroundings.initiating common) (congrArg Surroundings.graceMs common)
    obtain ⟨after, same⟩ := confined.here shared (Content.path.inj entry)
    exact ⟨congrArg Content.path after, same⟩

/-- Whether there is a reaction at all may depend on what the entities have in common. -/
theorem gated (confined : Engine.ConfinedTo entity react) (isOpen : Surroundings → Bool) :
    Engine.ConfinedTo entity fun engine =>
      if isOpen engine.surroundings then react engine else engine.quiet where
  around engine := by
    dsimp only
    split
    · exact confined.around engine
    · rfl
  elsewhere engine _ apart := by
    dsimp only
    split
    · exact confined.elsewhere engine apart
    · rfl
  here common entry := by
    dsimp only
    rw [common]
    split
    · exact confined.here common entry
    · exact ⟨entry, rfl⟩

/-- The ledger plays no part. -/
theorem upon (confined : Engine.ConfinedTo entity react) (change : Ledger → Ledger) :
    Engine.ConfinedTo entity fun engine => react (engine.upon (change engine.ledger)) where
  around engine := confined.around (engine.upon (change engine.ledger))
  elsewhere engine _ apart := confined.elsewhere (engine.upon (change engine.ledger)) apart
  here common entry := confined.here common entry

end Confined

/-! ## Reports -/

/-- What is told as the firmware ends a session. -/
def SessionEnd.notices (id : SessionId) (status : FirmwareStatus) : SessionEnd → List Notification
  | unasked role => [.sessionTerminated id role (.firmware status)]
  | asked | unknown => []

/-- What is told of a confirmation. -/
def ConfirmOutcome.notices (id : DataPathId) (peerInterface : MacAddress) (appInfo : ByteArray) :
    ConfirmOutcome → List Notification
  | confirmed => [.dataPathConfirmed id peerInterface appInfo]
  | rejected status => [.dataPathTerminated id (.rejected status)]
  | held | ignored => []

/-- What is told as the firmware ends a path. -/
def PathEnd.notices (id : DataPathId) (status : FirmwareStatus) : PathEnd → List Notification
  | unasked => [.dataPathTerminated id (.firmware status)]
  | asked | held | ignored => []

namespace Engine

variable {engine : Engine} {record : TransactionRecord} {entity : Entity}

theorem confined_sight (id : SessionId) (learn : Session → PeerRecord) (notice : Notification) :
    ConfinedTo (.session id) fun engine => engine.sight id learn notice :=
  ((SessionRegistry.confined_sight id learn).map fun noted =>
    if noted then [notice] else []).sessions

theorem confined_onSessionTerminated (id : SessionId) (status : FirmwareStatus) :
    ConfinedTo (.session id) fun engine => engine.onSessionTerminated id status :=
  ((SessionRegistry.confined_onTerminated id).map (·.notices id status)).sessions

/-- Nobody is listened to unless the interface is enabled, which is seen alike from each entity. -/
theorem confined_onPathRequested (id : DataPathId) (peer : PeerId) (address : MacAddress)
    (appInfo : ByteArray) (now : Timestamp) :
    ConfinedTo (.path id) fun engine => engine.onPathRequested id peer address appInfo now := by
  have noted := (DataPathTable.confined_onRequest id peer address appInfo now).map fun noted =>
    if noted then [Notification.dataPathRequested id peer address appInfo] else []
  exact noted.paths.gated (·.interface.isEnabled)

theorem confined_onPathConfirmed (id : DataPathId) (accepted : Bool) (peerInterface : MacAddress)
    (appInfo : ByteArray) (status : FirmwareStatus) :
    ConfinedTo (.path id) fun engine =>
      engine.onPathConfirmed id accepted peerInterface appInfo status :=
  ((DataPathTable.confined_onConfirmed id accepted peerInterface appInfo status).map
    (·.notices id peerInterface appInfo)).paths

theorem confined_onPathTerminated (id : DataPathId) (status : FirmwareStatus) :
    ConfinedTo (.path id) fun engine => engine.onPathTerminated id status :=
  ((DataPathTable.confined_onTerminated id status).map (·.notices id status)).paths

/-! ## Answers to commands -/

/-- A command about an entity does not disable the interface. -/
theorem notDisable_of_entity (commissioned : record.Commissioned)
    (about : record.context.entity? = some entity) : record.kind ≠ .disable := by
  have commission : Commission record.kind record.context record.origin := commissioned
  intro disable
  rw [commission.interface_iff.mpr (.inr (.inr disable))] at about
  cases about

/-- The end of a command is announced as it is settled, if it initiates nothing. -/
theorem confined_conclude_of_settled {settle : Engine → Settlement} {outcome : Outcome}
    (origin : record.origin = .caller) (notDisable : record.kind ≠ .disable)
    (settled : ∀ engine : Engine, engine.settleByItself record outcome = settle engine)
    (notInitiated : ∀ engine path, (settle engine).result ≠ .ok (.dataPathInitiated path))
    (confined : ConfinedTo entity fun engine => ((settle engine).engine,
      (settle engine).notices ++ [.completed ⟨record.id, record.kind, (settle engine).result⟩])) :
    ConfinedTo entity fun engine => engine.conclude record outcome := by
  have same : (fun engine : Engine => engine.conclude record outcome) = fun engine =>
      ((settle engine).engine, (settle engine).notices ++
        [.completed ⟨record.id, record.kind, (settle engine).result⟩]) := by
    funext engine
    rw [conclude_caller origin, settle_eq_settleByItself notDisable, settled,
      announce_of_ne record (notInitiated engine)]
  rw [same]
  exact confined

/-- **The end of a command about an entity is confined to it**, whatever came of the command. -/
theorem confined_conclude (commissioned : record.Commissioned)
    (about : record.context.entity? = some entity) (outcome : Outcome) :
    ConfinedTo entity fun engine => engine.conclude record outcome := by
  have commission : Commission record.kind record.context record.origin := commissioned
  have notDisable := notDisable_of_entity commissioned about
  have told {detail : CompletionDetail} (other : ∀ path, detail ≠ .dataPathInitiated path)
      (path : DataPathId) : outcome.achieving detail ≠ .ok (.dataPathInitiated path) := by
    unfold Outcome.achieving
    split
    · exact fun same => other path (Except.ok.inj same)
    · exact fun same => by cases same
  have mapped {α : Type} {result : Except Failure α} {detail : α → CompletionDetail}
      (other : ∀ value path, detail value ≠ .dataPathInitiated path) (path : DataPathId) :
      result.map detail ≠ .ok (.dataPathInitiated path) := by
    cases result with
    | error => exact fun same => by cases same
    | ok value => exact fun same => other value path (Except.ok.inj same)
  generalize kind : record.kind = kind', context : record.context = context',
    origin : record.origin = origin' at commission
  rw [context] at about
  cases commission with
  | capabilities | configure | disable | start | initiate => cases about
  | update role id =>
    obtain rfl := Option.some.inj about
    refine confined_conclude_of_settled origin notDisable
      (fun engine => settleByItself_update kind context outcome)
      (fun _ => mapped (by simp)) ?_
    exact ((SessionRegistry.confined_resolveUpdate id record.id outcome.plain).map fun result =>
      [.completed ⟨record.id, record.kind, result.map fun _ => .sessionUpdated id⟩]).sessions
  | message id =>
    obtain rfl := Option.some.inj about
    refine confined_conclude_of_settled origin notDisable
      (fun engine => settleByItself_message kind context outcome) (fun _ => told (by simp)) ?_
    exact ((SessionRegistry.confined_update id (·.detach record.id)).map fun _ =>
      [.completed ⟨record.id, record.kind, outcome.achieving .messageSent⟩]).sessions
  | stop role id =>
    obtain rfl := Option.some.inj about
    refine confined_conclude_of_settled origin notDisable
      (fun engine => settleByItself_stop kind context outcome) (fun _ => told (by simp)) ?_
    exact ((SessionRegistry.confined_update id
      fun session => { session.detach record.id with state := .terminated }).map fun _ =>
        [.completed ⟨record.id, record.kind, outcome.achieving (.sessionStopped id)⟩]).sessions
  | create name =>
    obtain rfl := Option.some.inj about
    refine confined_conclude_of_settled origin notDisable
      (fun engine => settleByItself_create kind context outcome) (fun _ => told (by simp)) ?_
    exact (DataInterfaceTable.confined_resolveCreate name outcome.isOk).dataInterfaces
      [.completed ⟨record.id, record.kind, outcome.achieving (.interfaceCreated name)⟩]
  | delete name =>
    obtain rfl := Option.some.inj about
    refine confined_conclude_of_settled origin notDisable
      (fun engine => settleByItself_delete kind context outcome) (fun _ => told (by simp)) ?_
    exact (DataInterfaceTable.confined_resolveDelete name outcome.isOk).dataInterfaces
      [.completed ⟨record.id, record.kind, outcome.achieving (.interfaceDeleted name)⟩]
  | respond id =>
    obtain rfl := Option.some.inj about
    cases origin' with
    | engine =>
      have same : (fun engine : Engine => engine.conclude record outcome) = fun engine =>
          { engine with paths := engine.paths.detach id record.id }.quiet := by
        funext engine
        rw [conclude_engine origin, strikeOff, context]
      rw [same]
      exact ((DataPathTable.confined_update id (·.detach record.id)).map fun _ => []).paths
    | caller =>
      refine confined_conclude_of_settled origin notDisable
        (fun engine => settleByItself_respond kind context outcome)
        (fun _ => mapped (by simp)) ?_
      -- Whether the path was up before and is down after is told as well.
      exact ((DataPathTable.confined_resolveRespond id record.id outcome.plain).observe
        fun before after result =>
          (if !result.isOk && before.1.any (·.isConfirmed) && !after.1.any (·.isLive) then
            [Notification.dataPathTerminated id .setupFailed] else []) ++
            [.completed ⟨record.id, record.kind,
              result.map fun accepted => .dataPathResponded id accepted⟩]).paths
  | close id =>
    obtain rfl := Option.some.inj about
    refine confined_conclude_of_settled origin notDisable
      (fun engine => settleByItself_close kind context outcome) (fun _ => told (by simp)) ?_
    exact ((DataPathTable.confined_update id fun path =>
      { (path.detach record.id).terminated with endPending := false }).map fun _ =>
        [.completed ⟨record.id, record.kind, outcome.achieving (.dataPathEnded id)⟩]).paths

/-! ## Events -/

/-- What an event does, with a ledger in which to look up the command that it answers. -/
def reaction (ledger : Ledger) (now : Timestamp) (event : FirmwareEvent) (engine : Engine) : Reaction :=
  match event with
  | .commandCompleted txn outcome =>
    match ledger.get? txn with
    | some record =>
      (engine.upon (engine.ledger.rollback txn)).conclude record (outcome.mapError .firmware)
    | none => engine.quiet
  | event => engine.handle now event

theorem handle_eq_reaction (engine : Engine) (now : Timestamp) (event : FirmwareEvent) :
    engine.handle now event = reaction engine.ledger now event engine := by
  cases event with
  | commandCompleted txn outcome =>
    cases onFile : engine.ledger.get? txn with
    | none => simp only [reaction, onFile, handle, onCompleted_of_absent onFile]
    | some record => simp only [reaction, onFile, handle, onCompleted_of_onFile onFile]
  | _ => rfl

/-- **Whatever is reported of an entity is confined to it.** -/
theorem Coherent.confined (coherent : engine.Coherent) (now : Timestamp) {event : FirmwareEvent}
    (about : event.entity? engine.ledger = some entity) :
    ConfinedTo entity (reaction engine.ledger now event) := by
  cases event with
  | commandCompleted txn outcome =>
    obtain ⟨record, onFile, about⟩ := Option.bind_eq_some_iff.mp about
    have concluded := confined_conclude (coherent.commissioned onFile) about
      (outcome.mapError .firmware)
    have same : reaction engine.ledger now (.commandCompleted txn outcome) = fun engine =>
        (engine.upon (engine.ledger.rollback txn)).conclude record (outcome.mapError .firmware) := by
      funext engine
      simp only [reaction, onFile]
    rw [same]
    exact concluded.upon (·.rollback txn)
  | sessionMatched id peer address serviceSpecificInfo matchFilter =>
    obtain rfl := Option.some.inj about
    have same : reaction engine.ledger now
        (.sessionMatched id peer address serviceSpecificInfo matchFilter) = fun engine =>
          engine.sight id (fun _ => ⟨peer, address, serviceSpecificInfo, matchFilter, now⟩)
            (.matchFound id peer address serviceSpecificInfo) :=
      funext fun engine => engine.onMatched_eq id peer address serviceSpecificInfo matchFilter now
    rw [same]
    exact confined_sight id _ _
  | messageReceived id peer address payload =>
    obtain rfl := Option.some.inj about
    have same : reaction engine.ledger now (.messageReceived id peer address payload) =
        fun engine => engine.sight id (·.heard peer address now) (.messageReceived id peer payload) :=
      funext fun engine => engine.onMessage_eq id peer address payload now
    rw [same]
    exact confined_sight id _ _
  | sessionTerminated id status =>
    obtain rfl := Option.some.inj about
    exact confined_onSessionTerminated id status
  | dataPathRequested id peer address appInfo =>
    obtain rfl := Option.some.inj about
    exact confined_onPathRequested id peer address appInfo now
  | dataPathConfirmed id accepted peerInterface appInfo status =>
    obtain rfl := Option.some.inj about
    exact confined_onPathConfirmed id accepted peerInterface appInfo status
  | dataPathTerminated id status =>
    obtain rfl := Option.some.inj about
    exact confined_onPathTerminated id status
  | identityChanged | interfaceDown => cases about

/-! ## Independence -/

theorem ledger_conclude (notDisable : record.kind ≠ .disable) (outcome : Outcome) :
    (engine.conclude record outcome).1.ledger = engine.ledger := by
  cases origin : record.origin with
  | engine => rw [conclude_engine origin, ledger_strikeOff]
  | caller =>
    rw [conclude_caller origin, settle_eq_settleByItself notDisable, ledger_announce,
      ledger_settleByItself]

namespace Coherent

variable {now : Timestamp} {first second event : FirmwareEvent} {entity' : Entity}

theorem ledger_reaction (coherent : engine.Coherent) (now : Timestamp)
    (about : event.entity? engine.ledger = some entity) (store : Engine) :
    (reaction engine.ledger now event store).1.ledger = store.ledger.afterReport event := by
  cases event with
  | commandCompleted txn outcome =>
    obtain ⟨record, onFile, about⟩ := Option.bind_eq_some_iff.mp about
    simp only [reaction, onFile]
    rw [ledger_conclude (notDisable_of_entity (coherent.commissioned onFile) about)]
    rfl
  | dataPathRequested =>
    show (store.onPathRequested ..).1.ledger = _
    unfold Engine.onPathRequested
    split <;> rfl
  | identityChanged | interfaceDown => cases about
  | _ => rfl

/-- A report of another entity leaves the command that is answered on file. -/
theorem reaction_afterReport (about : first.entity? engine.ledger = some entity)
    (about' : second.entity? engine.ledger = some entity') (apart : entity ≠ entity')
    (now : Timestamp) :
    reaction (engine.ledger.afterReport first) now second = reaction engine.ledger now second := by
  cases second with
  | commandCompleted txn outcome =>
    have stays : (engine.ledger.afterReport first).get? txn = engine.ledger.get? txn := by
      cases first with
      | commandCompleted other =>
        refine (Ledger.get?_rollback ..).trans (if_neg ?_)
        rintro rfl
        exact apart (Option.some.inj (about.symm.trans about'))
      | _ => rfl
    funext engine
    simp only [reaction, stays]
  | _ => rfl

/-- What is reported next of another entity does what it would have done before. -/
theorem handle_handle (coherent : engine.Coherent)
    (about : first.entity? engine.ledger = some entity)
    (about' : second.entity? engine.ledger = some entity') (apart : entity ≠ entity')
    (now : Timestamp) :
    (engine.handle now first).1.handle now second =
      reaction engine.ledger now second (reaction engine.ledger now first engine).1 := by
  rw [handle_eq_reaction, handle_eq_reaction, coherent.ledger_reaction now about,
    reaction_afterReport about about' apart]

/-- **Reports of different entities may change places**, and neither of them can tell. -/
theorem handle_comm (coherent : engine.Coherent)
    (about : first.entity? engine.ledger = some entity)
    (about' : second.entity? engine.ledger = some entity') (apart : entity ≠ entity')
    (now : Timestamp) :
    ((engine.handle now first).1.handle now second).1 =
        ((engine.handle now second).1.handle now first).1 ∧
      ((engine.handle now first).1.handle now second).2 = (engine.handle now second).2 := by
  have before := coherent.confined now about
  have after := coherent.confined now about'
  rw [coherent.handle_handle about about' apart, coherent.handle_handle about' about apart.symm]
  constructor
  · obtain ⟨surroundings, content⟩ := before.commute after apart engine
    refine ext_content ?_ surroundings content
    rw [coherent.ledger_reaction now about', coherent.ledger_reaction now about,
      coherent.ledger_reaction now about, coherent.ledger_reaction now about']
    exact engine.ledger.afterReport_comm first second
  · rw [before.answer_eq after apart, ← handle_eq_reaction]

end Coherent

end Engine

end NanHost
