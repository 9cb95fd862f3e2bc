import NanHost.Engine.Admission
import NanHost.Proofs.Engine.Coherence

/-!
# Admission — a request that is admitted leaves a coherent engine

What a request may assume is decided before its command is filed, and entered afterwards. Each
`vet…` is described once, by what it has found when it lets a request go ahead and by what it hands
to the firmware.

## What is proved

- `kind_of_vet`: the command handed over is of the kind of the request.
- `Coherent.stage`: once the command is on file, staging the request leaves the engine coherent. In
  particular every command is issued in one of the forms of `Commission`.
-/

namespace NanHost

/-- A sequence goes well when its first part does, and the rest on the result. -/
theorem bind_eq_ok {ε α β : Type} {first : Except ε α} {rest : α → Except ε β} {result : β} :
    first >>= rest = .ok result ↔ ∃ value, first = .ok value ∧ rest value = .ok result := by
  cases first <;> simp [bind, Except.bind]

/-- What follows a check goes ahead when the check passes. -/
theorem check_bind_eq_ok {ε β : Type} {check : Except ε Unit} {rest : Unit → Except ε β}
    {result : β} : check >>= rest = .ok result ↔ check = .ok () ∧ rest () = .ok result := by
  rw [bind_eq_ok]
  exact ⟨fun ⟨_, passed, went⟩ => ⟨passed, went⟩, fun ⟨passed, went⟩ => ⟨(), passed, went⟩⟩

/-- A sequence that is sure to fail after a check fails, and for the reason after the check if the check
passes. -/
theorem check_bind_fails {ε β : Type} (check : Except ε Unit) {rest : Unit → Except ε β} {error : ε}
    {sound : Prop} (fails : ∃ reason, rest () = .error reason ∧ (sound → reason = error)) :
    ∃ reason, check >>= rest = .error reason ∧ (check = .ok () ∧ sound → reason = error) := by
  cases check with
  | error reason => exact ⟨reason, rfl, nofun⟩
  | ok =>
    obtain ⟨reason, failed, why⟩ := fails
    exact ⟨reason, failed, fun passed => why passed.2⟩

/-- A sequence of checks does not end in an error that none of them gives. -/
theorem check_bind_ne {ε β : Type} {check : Except ε Unit} {rest : Unit → Except ε β} {error : ε}
    (first : check ≠ .error error) (second : rest () ≠ .error error) :
    check >>= rest ≠ .error error := by
  cases check with
  | error reason =>
    intro failed
    exact first (congrArg Except.error (Except.error.inj failed))
  | ok => exact second

theorem pure_eq_ok {ε α : Type} {value result : α} :
    (pure value : Except ε α) = .ok result ↔ value = result :=
  Except.ok.injEq value result ▸ Iff.rfl

/-! ## Checks of the registry and the tables -/

theorem SessionRegistry.live_eq_ok {registry : SessionRegistry} {id : SessionId}
    {session : Session} :
    registry.live id = .ok session ↔
      registry.get? id = some session ∧ session.isLive = true := by
  unfold live
  cases registry.get? id with
  | none => simp
  | some entry =>
    by_cases isLive : entry.isLive
    · simp only [isLive, if_true, Except.ok.injEq, Option.some.injEq]
      exact ⟨fun same => ⟨same, same ▸ isLive⟩, And.left⟩
    · simp only [isLive, Bool.false_eq_true, if_false, reduceCtorEq, Option.some.injEq, false_iff,
        not_and]
      rintro rfl
      exact isLive

theorem DataPathTable.live_eq_ok {table : DataPathTable} {id : DataPathId} {path : DataPath} :
    table.live id = .ok path ↔ table.get? id = some path ∧ path.isLive = true := by
  unfold live
  cases table.get? id with
  | none => simp
  | some entry =>
    by_cases isLive : entry.isLive
    · simp only [isLive, if_true, Except.ok.injEq, Option.some.injEq]
      exact ⟨fun same => ⟨same, same ▸ isLive⟩, And.left⟩
    · simp only [isLive, Bool.false_eq_true, if_false, reduceCtorEq, Option.some.injEq, false_iff,
        not_and]
      rintro rfl
      exact isLive

/-- An update is for a session of the role that is not terminated, not being stopped, and not being
updated already. -/
theorem SessionRegistry.checkUpdate_eq_ok {registry : SessionRegistry} {id : SessionId}
    {role : SessionRole} :
    registry.checkUpdate id role = .ok () ↔
      ∃ session, registry.get? id = some session ∧ session.isLive = true ∧ session.role = role ∧
        session.state ≠ .terminating ∧ session.hasPendingUpdate = false := by
  unfold checkUpdate checkRole
  rw [bind_eq_ok]
  simp only [live_eq_ok, check_bind_eq_ok, require_eq_ok_iff, Bool.not_eq_true', and_assoc]

/-- A stop is for a session of the role that is not terminated and not being stopped already. -/
theorem SessionRegistry.checkStop_eq_ok {registry : SessionRegistry} {id : SessionId}
    {role : SessionRole} :
    registry.checkStop id role = .ok () ↔
      ∃ session, registry.get? id = some session ∧ session.isLive = true ∧ session.role = role ∧
        session.state ≠ .terminating := by
  unfold checkStop checkRole
  rw [bind_eq_ok]
  simp only [live_eq_ok, check_bind_eq_ok, require_eq_ok_iff, and_assoc]

/-- A message is for a session that is there. -/
theorem SessionRegistry.found_of_checkMessage {registry : SessionRegistry} {id : SessionId}
    {peer : PeerId} {payloadSize : UInt64} {capabilities : Option Capabilities}
    {address : MacAddress}
    (passed : registry.checkMessage id peer payloadSize capabilities = .ok address) :
    ∃ session, registry.get? id = some session := by
  unfold checkMessage at passed
  cases found : registry.get? id with
  | none => simp [found] at passed
  | some session => exact ⟨session, rfl⟩

/-- A deletion is for a data interface that is ready. -/
theorem DataInterfaceTable.checkDelete_eq_ok {table : DataInterfaceTable} {name : String} :
    table.checkDelete name = .ok () ↔ table.state? name = some .ready := by
  unfold checkDelete
  split <;> simp_all

/-- A creation is under a name that is free. -/
theorem DataInterfaceTable.free_of_checkCreate {table : DataInterfaceTable} {name : String}
    {capabilities : Option Capabilities}
    (passed : table.checkCreate name capabilities = .ok ()) : table.state? name = none := by
  unfold checkCreate at passed
  rw [check_bind_eq_ok, require_eq_ok_iff] at passed
  exact Std.ExtTreeMap.getElem?_eq_none passed.1

/-- An answer is for a path that is there. -/
theorem DataPathTable.found_of_checkRespond {table : DataPathTable} {request : RespondRequest}
    {capabilities : Option Capabilities}
    (passed : table.checkRespond request capabilities = .ok ()) :
    ∃ path, table.get? request.pathId = some path := by
  unfold checkRespond at passed
  obtain ⟨path, live, _⟩ := bind_eq_ok.mp passed
  exact ⟨path, (live_eq_ok.mp live).1⟩

/-- An end is for a path that is there. -/
theorem DataPathTable.found_of_checkEnd {table : DataPathTable} {id : DataPathId}
    (passed : table.checkEnd id = .ok ()) : ∃ path, table.get? id = some path := by
  unfold checkEnd at passed
  obtain ⟨path, live, _⟩ := bind_eq_ok.mp passed
  exact ⟨path, (live_eq_ok.mp live).1⟩

namespace Engine

variable {engine : Engine} {dispatch : Dispatch}

/-! ## What is handed over -/

/-- A start or an update is of the kind of its service, and about a new session or about one of its
role. -/
theorem vetDiscovery_ok {id : SessionId} {config : DiscoveryConfig}
    (admitted : engine.vetDiscovery id config = .ok dispatch) :
    dispatch.command = .ofDiscovery id config ∧
      (id.isAssigned = false ∧ dispatch.context = .newSession config.role ∨
        id.isAssigned = true ∧ dispatch.context = .session id ∧
          ∃ session, engine.sessions.get? id = some session ∧ session.role = config.role) := by
  simp only [vetDiscovery, check_bind_eq_ok] at admitted
  obtain ⟨_, _, rest⟩ := admitted
  cases assigned : id.isAssigned with
  | true =>
    simp only [assigned, if_true, check_bind_eq_ok, SessionRegistry.checkUpdate_eq_ok,
      pure_eq_ok] at rest
    obtain ⟨⟨session, found, _, role, _⟩, rfl⟩ := rest
    exact ⟨rfl, .inr ⟨rfl, rfl, session, found, role⟩⟩
  | false =>
    simp only [assigned, Bool.false_eq_true, if_false, check_bind_eq_ok, pure_eq_ok] at rest
    obtain ⟨_, rfl⟩ := rest
    exact ⟨rfl, .inl ⟨rfl, rfl⟩⟩

theorem vetMessage_ok {id : SessionId} {peer : PeerId} {payload : ByteArray}
    (admitted : engine.vetMessage id peer payload = .ok dispatch) :
    (∃ address, dispatch = ⟨.sendMessage id peer address payload, .session id⟩) ∧
      ∃ session, engine.sessions.get? id = some session := by
  rw [vetMessage, check_bind_eq_ok, bind_eq_ok] at admitted
  obtain ⟨_, address, passed, handed⟩ := admitted
  exact ⟨⟨address, (pure_eq_ok.mp handed).symm⟩, SessionRegistry.found_of_checkMessage passed⟩

theorem vetStop_ok {id : SessionId} {role : SessionRole} {command : Command}
    (admitted : engine.vetStop id role command = .ok dispatch) :
    dispatch = ⟨command, .session id⟩ ∧
      ∃ session, engine.sessions.get? id = some session ∧ session.role = role := by
  simp only [vetStop, check_bind_eq_ok, SessionRegistry.checkStop_eq_ok, pure_eq_ok] at admitted
  obtain ⟨_, ⟨session, found, _, role, _⟩, rfl⟩ := admitted
  exact ⟨rfl, session, found, role⟩

theorem vetCreate_ok {name : String} (admitted : engine.vetCreate name = .ok dispatch) :
    dispatch = ⟨.createInterface name, .dataInterface name⟩ ∧
      engine.dataInterfaces.state? name = none := by
  simp only [vetCreate, check_bind_eq_ok, pure_eq_ok] at admitted
  obtain ⟨_, _, passed, rfl⟩ := admitted
  exact ⟨rfl, DataInterfaceTable.free_of_checkCreate passed⟩

theorem vetDelete_ok {name : String} (admitted : engine.vetDelete name = .ok dispatch) :
    dispatch = ⟨.deleteInterface name, .dataInterface name⟩ ∧
      engine.dataInterfaces.state? name = some .ready := by
  simp only [vetDelete, check_bind_eq_ok, pure_eq_ok] at admitted
  obtain ⟨_, passed, _, rfl⟩ := admitted
  exact ⟨rfl, DataInterfaceTable.checkDelete_eq_ok.mp passed⟩

theorem vetInitiate_ok {request : InitiateRequest}
    (admitted : engine.vetInitiate request = .ok dispatch) :
    dispatch = ⟨.initiateDataPath request engine.capabilities.snapshot, .newDataPath⟩ := by
  simp only [vetInitiate, check_bind_eq_ok, pure_eq_ok] at admitted
  obtain ⟨_, _, _, _, _, _, rfl⟩ := admitted
  rfl

theorem vetRespond_ok {request : RespondRequest}
    (admitted : engine.vetRespond request = .ok dispatch) :
    dispatch = ⟨.respondDataPath request engine.capabilities.snapshot, .dataPath request.pathId⟩ ∧
      ∃ path, engine.paths.get? request.pathId = some path := by
  simp only [vetRespond, check_bind_eq_ok] at admitted
  obtain ⟨_, _, passed, rest⟩ := admitted
  refine ⟨?_, DataPathTable.found_of_checkRespond passed⟩
  split at rest
  · rw [check_bind_eq_ok, pure_eq_ok] at rest
    exact rest.2.symm
  · exact (pure_eq_ok.mp rest).symm

theorem kind_ofDiscovery (id : SessionId) (config : DiscoveryConfig) :
    (Command.ofDiscovery id config).kind = config.role.startKind := by
  cases config <;> rfl

/-- **The command handed over is of the kind of the request.** -/
theorem kind_of_vet {request : Request} (admitted : engine.vet request = .ok dispatch) :
    dispatch.command.kind = request.kind := by
  cases request with
  | getCapabilities => obtain rfl := pure_eq_ok.mp admitted; rfl
  | enable request =>
    obtain ⟨initial, _, rest⟩ := bind_eq_ok.mp admitted
    rw [check_bind_eq_ok, pure_eq_ok] at rest
    obtain ⟨_, rfl⟩ := rest
    rfl
  | disable =>
    obtain ⟨_, handed⟩ := check_bind_eq_ok.mp admitted
    obtain rfl := pure_eq_ok.mp handed
    rfl
  | publish id config => rw [(vetDiscovery_ok admitted).1]; rfl
  | subscribe id config => rw [(vetDiscovery_ok admitted).1]; rfl
  | sendMessage id peer payload => obtain ⟨⟨_, rfl⟩, _⟩ := vetMessage_ok admitted; rfl
  | stopPublish id => obtain ⟨rfl, _⟩ := vetStop_ok admitted; rfl
  | stopSubscribe id => obtain ⟨rfl, _⟩ := vetStop_ok admitted; rfl
  | createInterface name => obtain ⟨rfl, _⟩ := vetCreate_ok admitted; rfl
  | deleteInterface name => obtain ⟨rfl, _⟩ := vetDelete_ok admitted; rfl
  | initiateDataPath request => obtain rfl := vetInitiate_ok admitted; rfl
  | respondDataPath request => obtain ⟨rfl, _⟩ := vetRespond_ok admitted; rfl
  | endDataPath id =>
    obtain ⟨_, rest⟩ := check_bind_eq_ok.mp admitted
    obtain ⟨_, handed⟩ := check_bind_eq_ok.mp rest
    obtain rfl := pure_eq_ok.mp handed
    rfl

end Engine

/-! ## What is filed -/

/-- A record that is about to be filed for a dispatch: under a number that is free, and with what
the dispatch says of it. -/
structure Ledger.Opens (ledger : Ledger) (record : TransactionRecord) (dispatch : Dispatch)
    (origin : Origin) : Prop where
  fresh : ledger.get? record.id = none
  nonzero : record.id.raw ≠ 0
  awaiting : record.awaitingCompletion = true
  kind : record.kind = dispatch.command.kind
  context : record.context = dispatch.context
  origin : record.origin = origin

namespace Ledger.Opens

variable {ledger : Ledger} {record : TransactionRecord} {dispatch : Dispatch} {origin : Origin}

theorem fileable (opens : ledger.Opens record dispatch origin)
    (commission : Commission dispatch.command.kind dispatch.context origin) :
    ledger.Fileable record where
  fresh := opens.fresh
  nonzero := opens.nonzero
  awaiting := opens.awaiting
  commissioned := by
    unfold TransactionRecord.Commissioned
    rw [opens.kind, opens.context, opens.origin]
    exact commission

/-- The docket has no command under the number either. -/
theorem absent (opens : ledger.Opens record dispatch origin) (subject : Subject) :
    ledger.docket subject record.id = none :=
  docket_eq_none_of_get? opens.fresh

end Ledger.Opens

namespace Engine.Coherent

variable {engine : Engine} {dispatch : Dispatch} {record : TransactionRecord}

/-! ## What is staged -/

theorem admitEnable (coherent : engine.Coherent) {request : EnableRequest}
    (admitted : engine.vet (.enable request) = .ok dispatch)
    (opens : engine.ledger.Opens record dispatch .caller) :
    ((engine.upon (engine.ledger.file record)).stage record.id (.enable request)).Coherent := by
  obtain ⟨initial, passed, rest⟩ := bind_eq_ok.mp admitted
  rw [check_bind_eq_ok, pure_eq_ok] at rest
  obtain ⟨_, rfl⟩ := rest
  have resting : engine.interface.phase.awaited = none := by
    unfold Interface.checkEnable at passed
    cases phase : engine.interface.phase <;> simp_all [InterfacePhase.awaited]
  have interface : engine.interface.Agrees _ := coherent.agrees .interface
  exact coherent.joinTable .interface (opens.fileable .configure) (by rw [opens.context]; rfl)
    (interface.beginEnable resting (opens.absent .interface) opens.kind request)

theorem admitDisable (coherent : engine.Coherent)
    (admitted : engine.vet .disable = .ok dispatch)
    (opens : engine.ledger.Opens record dispatch .caller) :
    ((engine.upon (engine.ledger.file record)).stage record.id .disable).Coherent := by
  obtain ⟨passed, handed⟩ := check_bind_eq_ok.mp admitted
  obtain rfl := pure_eq_ok.mp handed
  have up : engine.interface.phase = .enabled := by
    simpa [Interface.checkDisable, Interface.requireEnabled, Interface.isEnabled] using passed
  have interface : engine.interface.Agrees _ := coherent.agrees .interface
  exact coherent.joinTable .interface (opens.fileable .disable) (by rw [opens.context]; rfl)
    (interface.beginDisable up (opens.absent .interface) opens.kind)

theorem admitDiscovery (coherent : engine.Coherent) {id : SessionId} {config : DiscoveryConfig}
    (admitted : engine.vetDiscovery id config = .ok dispatch)
    (opens : engine.ledger.Opens record dispatch .caller) :
    ((engine.upon (engine.ledger.file record)).stageDiscovery record.id id config).Coherent := by
  obtain ⟨command, about⟩ := vetDiscovery_ok admitted
  have kind : record.kind = config.role.startKind := by
    rw [opens.kind, command, kind_ofDiscovery]
  have sessions : engine.sessions.Agrees _ := coherent.agrees .sessions
  have fresh := opens.absent .sessions
  unfold stageDiscovery
  rcases about with ⟨assigned, context⟩ | ⟨assigned, context, session, found, role⟩
  · have commission : Commission dispatch.command.kind dispatch.context .caller := by
      rw [context, command, kind_ofDiscovery]
      exact .start config.role
    rw [← opens.context] at context
    rw [if_neg (by simp [assigned])]
    exact coherent.joinTable .sessions (opens.fileable commission) (by rw [context]; rfl)
      (sessions.beginNew fresh context)
  · have commission : Commission dispatch.command.kind dispatch.context .caller := by
      rw [context, command, kind_ofDiscovery]
      exact .update config.role id
    rw [← opens.context] at context
    rw [if_pos assigned]
    exact coherent.joinTable .sessions (opens.fileable commission) (by rw [context]; rfl)
      (sessions.beginUpdate found fresh context role.symm kind)

theorem admitStop (coherent : engine.Coherent) {id : SessionId} {role : SessionRole}
    {command : Command} (kind : command.kind = role.stopKind)
    (admitted : engine.vetStop id role command = .ok dispatch)
    (opens : engine.ledger.Opens record dispatch .caller) :
    { engine with
      ledger := engine.ledger.file record
      sessions := engine.sessions.beginStop id record.id }.Coherent := by
  obtain ⟨rfl, session, found, rfl⟩ := vetStop_ok admitted
  have sessions : engine.sessions.Agrees _ := coherent.agrees .sessions
  have commission : Commission command.kind (.session id) .caller := by
    rw [kind]
    exact .stop session.role id
  exact coherent.joinTable .sessions (opens.fileable commission) (by rw [opens.context]; rfl)
    (sessions.beginStop found (opens.absent .sessions) opens.context (opens.kind.trans kind))

/-- **Staging an admitted request leaves a coherent engine.** -/
theorem stage (coherent : engine.Coherent) {request : Request}
    (admitted : engine.vet request = .ok dispatch)
    (opens : engine.ledger.Opens record dispatch .caller) :
    ((engine.upon (engine.ledger.file record)).stage record.id request).Coherent := by
  have interface : engine.interface.Agrees _ := coherent.agrees .interface
  have dataInterfaces : engine.dataInterfaces.Agrees _ := coherent.agrees .dataInterfaces
  have sessions : engine.sessions.Agrees _ := coherent.agrees .sessions
  have paths : engine.paths.Agrees _ := coherent.agrees .paths
  cases request with
  | getCapabilities =>
    obtain rfl := pure_eq_ok.mp admitted
    exact coherent.joinTable .interface (opens.fileable .capabilities) (by rw [opens.context]; rfl)
      (interface.enterQuery (opens.absent .interface) opens.kind)
  | enable request => exact coherent.admitEnable admitted opens
  | disable => exact coherent.admitDisable admitted opens
  | publish id config => exact coherent.admitDiscovery admitted opens
  | subscribe id config => exact coherent.admitDiscovery admitted opens
  | sendMessage id peer payload =>
    obtain ⟨⟨address, rfl⟩, session, found⟩ := vetMessage_ok admitted
    exact coherent.joinTable .sessions (opens.fileable (.message id)) (by rw [opens.context]; rfl)
      (sessions.attach found (opens.absent .sessions) opens.context opens.kind)
  | stopPublish id => exact coherent.admitStop rfl admitted opens
  | stopSubscribe id => exact coherent.admitStop rfl admitted opens
  | createInterface name =>
    obtain ⟨rfl, free⟩ := vetCreate_ok admitted
    exact coherent.joinTable .dataInterfaces (opens.fileable (.create name))
      (by rw [opens.context]; rfl)
      (dataInterfaces.beginCreate free (opens.absent .dataInterfaces) opens.context opens.kind)
  | deleteInterface name =>
    obtain ⟨rfl, ready⟩ := vetDelete_ok admitted
    exact coherent.joinTable .dataInterfaces (opens.fileable (.delete name))
      (by rw [opens.context]; rfl)
      (dataInterfaces.beginDelete ready (opens.absent .dataInterfaces) opens.context opens.kind)
  | initiateDataPath request =>
    obtain rfl := vetInitiate_ok admitted
    exact coherent.joinTable .paths (opens.fileable .initiate) (by rw [opens.context]; rfl)
      (paths.beginInitiate request (opens.absent .paths) opens.context)
  | respondDataPath request =>
    obtain ⟨rfl, path, found⟩ := vetRespond_ok admitted
    exact coherent.joinTable .paths (opens.fileable (.respond request.pathId .caller))
      (by rw [opens.context]; rfl)
      (paths.beginRespond found (opens.absent .paths) opens.context opens.kind)
  | endDataPath id =>
    obtain ⟨_, rest⟩ := check_bind_eq_ok.mp admitted
    obtain ⟨passed, handed⟩ := check_bind_eq_ok.mp rest
    obtain rfl := pure_eq_ok.mp handed
    obtain ⟨path, found⟩ := DataPathTable.found_of_checkEnd passed
    exact coherent.joinTable .paths (opens.fileable (.close id)) (by rw [opens.context]; rfl)
      (paths.beginEnd found (opens.absent .paths) opens.context opens.kind)

end Engine.Coherent

end NanHost
