import NanHost.Proofs.Agreement.Arrivals
import NanHost.Proofs.Engine.Admissible
import NanHost.Proofs.Engine.Tidiness

/-!
# Reversal — a request that fails is undone

What a request enters into the tables comes from one place, and when its command fails it has to be
taken out in another, without a copy of what was there before. Each table keeps what is under way apart
from what is there, so that the end of a failed command finds its own entry and nothing else.

## What is proved

For each table, that the end of a failed command undoes its beginning: an interface that is back in its
stage (`Interface.completeEnable_beginEnable`), a start or an initiation that was never there
(`SessionRegistry.resolveNew_beginNew`, `DataPathTable.resolveInitiate_beginInitiate`), a session as it
was before an update or a message, a data interface that is gone or ready again. The conditions are
those under which requests are admitted, and that nothing is on file under the number of the command.

`Coherent.onCompleted_stage` puts them together: an admitted request whose command fails next leaves the
engine as it was, and the caller hears of the failure. `Fails` lists the answers that are failures.

Stops and ends are not undone. They are carried through, whatever the firmware answers
(`Coherent.onCompleted_carriedThrough`).
-/

namespace NanHost

/-! ## The interface -/

namespace Interface

variable {interface : Interface}

/-- A configuration that failed leaves the interface in the stage in which it was. -/
theorem completeEnable_beginEnable (staged : interface.staged = none) {initial : Bool}
    (phase : interface.phase = if initial then .disabled else .enabled) (request : EnableRequest) :
    (interface.beginEnable request).completeEnable false = (some initial, interface) := by
  obtain ⟨_, applied, _⟩ := interface
  subst staged phase
  cases initial <;> rfl

/-- So does a disabling that failed. -/
theorem completeDisable_beginDisable (up : interface.phase = .enabled) :
    (interface.beginDisable.completeDisable false).2 = interface := by
  obtain ⟨_, applied, staged⟩ := interface
  subst up
  rfl

end Interface

/-! ## Sessions -/

namespace Session

variable {session : Session} {txn : TransactionId}

theorem detach_attach (absent : txn ∉ session.inFlight) :
    (session.attach txn).detach txn = session := by
  show { session with inFlight := (session.inFlight.insert txn).erase txn } = session
  rw [Tables.erase_insert_of_notMem absent]

/-- An update that is entered and dropped has been there for nothing. -/
theorem dropUpdate_begun (absent : txn ∉ session.inFlight) (noUpdate : session.pendingUpdate = none)
    (config : DiscoveryConfig) :
    ({ session.attach txn with pendingUpdate := some (txn, config) }.detach txn).dropUpdate txn =
      session := by
  have detached : { session.attach txn with pendingUpdate := some (txn, config) }.detach txn =
      { session with pendingUpdate := some (txn, config) } := by
    show { session with
        inFlight := (session.inFlight.insert txn).erase txn
        pendingUpdate := some (txn, config) } = _
    rw [Tables.erase_insert_of_notMem absent]
  rw [detached, dropUpdate]
  dsimp only
  rw [if_pos rfl, ← noUpdate]

end Session

namespace SessionRegistry

variable {registry : SessionRegistry} {id : SessionId} {session : Session} {txn : TransactionId}

theorem put_put (registry : SessionRegistry) (id : SessionId) (first second : Session) :
    (registry.put id first).put id second = registry.put id second := by
  rw [put, put, put, Tables.insert_insert]

theorem put_of_found (found : registry.get? id = some session) :
    registry.put id session = registry := by
  rw [put, Tables.insert_of_found found]

/-- A session that is active is kept. -/
theorem purge_of_active (found : registry.get? id = some session) (active : session.state = .active) :
    registry.purge id = registry := by
  unfold purge
  rw [found]
  simp [Session.isDone, active]

/-- The ends of a start that bring no session, and what the caller is told of them. -/
inductive Denies (registry : SessionRegistry) : Except Failure SessionId → Failure → Prop
  | failed (failure : Failure) : Denies registry (.error failure) failure
  | zero {id : SessionId} (zero : id.isAssigned = false) :
    Denies registry (.ok id) (.invalidAnswer .sessionIdZero)
  | taken {id : SessionId} {session : Session} (assigned : id.isAssigned = true)
    (there : registry.get? id = some session) :
    Denies registry (.ok id) (.invalidAnswer .duplicateSessionId)

theorem resolveNew_of_denies {rest : SessionRegistry} {config : DiscoveryConfig}
    (found : registry.starting[txn]? = some config)
    (same : { registry with starting := registry.starting.erase txn } = rest)
    {assigned : Except Failure SessionId} {failure : Failure} (denies : rest.Denies assigned failure) :
    registry.resolveNew txn assigned = (.error failure, rest) := by
  subst same
  rw [resolveNew, found]
  cases denies with
  | failed failure => rfl
  | zero zero => simp [zero]
  | @taken id session assigned there =>
    have contained : registry.sessions.contains id = true := by
      rw [Std.ExtTreeMap.contains_eq_isSome_getElem?]
      exact Option.isSome_iff_exists.mpr ⟨session, there⟩
    simp [assigned, contained]

/-- **A start that brings no session** has been there for nothing. -/
theorem resolveNew_beginNew (absent : registry.starting[txn]? = none) (config : DiscoveryConfig)
    {assigned : Except Failure SessionId} {failure : Failure}
    (denies : registry.Denies assigned failure) :
    (registry.beginNew txn config).resolveNew txn assigned = (.error failure, registry) := by
  have found : (registry.starting.insert txn config)[txn]? = some config := by
    rw [Tables.getElem?_insert, if_pos rfl]
  apply resolveNew_of_denies found _ denies
  show { registry with starting := (registry.starting.insert txn config).erase txn } = registry
  rw [Tables.erase_insert_of_absent absent]

/-- **An update that failed** leaves the session as it was. -/
theorem resolveUpdate_beginUpdate (found : registry.get? id = some session)
    (active : session.state = .active) (noUpdate : session.pendingUpdate = none)
    (absent : txn ∉ session.inFlight) (config : DiscoveryConfig) (failure : Failure) :
    (registry.beginUpdate id txn config).resolveUpdate id txn (.error failure) =
      (.error failure, registry) := by
  have there (next : Session) : (registry.put id next).get? id = some next := by
    rw [get?_put, if_pos rfl]
  rw [beginUpdate, update_eq_put found, resolveUpdate, there]
  dsimp only
  rw [Session.dropUpdate_begun absent noUpdate, put_put, put_of_found found,
    purge_of_active found active]
  simp [Session.isActive, Session.attach, active]

/-- **A message that failed** leaves the session as it was. -/
theorem detach_attach (found : registry.get? id = some session) (active : session.state = .active)
    (absent : txn ∉ session.inFlight) : ((registry.attach id txn).detach id txn).2 = registry := by
  have there (next : Session) : (registry.put id next).get? id = some next := by
    rw [get?_put, if_pos rfl]
  rw [attach, update_eq_put found, detach]
  dsimp only
  rw [update_eq_put (there _), Session.detach_attach absent, put_put, put_of_found found,
    purge_of_active found active]

end SessionRegistry

/-! ## Data interfaces -/

namespace DataInterfaceTable

variable {table : DataInterfaceTable} {name : String}

/-- **A creation that failed** leaves nothing under the name. -/
theorem resolveCreate_beginCreate (free : table.state? name = none) (txn : TransactionId) :
    (table.beginCreate name txn).resolveCreate name false = table := by
  have creating : (table.beginCreate name txn).state? name = some (.creating txn) := by
    rw [beginCreate, Agrees.state?_insert, if_pos rfl]
  rw [resolveCreate, creating]
  show DataInterfaceTable.mk ((table.interfaces.insert name (.creating txn)).erase name) = table
  rw [Tables.erase_insert_of_absent free]

/-- **A deletion that failed** leaves the interface ready. -/
theorem resolveDelete_beginDelete (ready : table.state? name = some .ready) (txn : TransactionId) :
    (table.beginDelete name txn).resolveDelete name false = table := by
  have deleting : (table.beginDelete name txn).state? name = some (.deleting txn) := by
    rw [Agrees.state?_beginDelete ready, if_pos rfl]
  rw [resolveDelete, deleting]
  show DataInterfaceTable.mk ((table.beginDelete name txn).interfaces.insert name .ready) = table
  rw [beginDelete, Tables.modify_eq_insert ready, Tables.insert_insert, Tables.insert_of_found ready]

end DataInterfaceTable

/-! ## Data paths -/

namespace DataPathTable

variable {table : DataPathTable} {txn : TransactionId}

/-- The ends of an initiation that bring no path, and what the caller is told of them. -/
inductive Denies (table : DataPathTable) : Except Failure DataPathId → Failure → Prop
  | failed (failure : Failure) : Denies table (.error failure) failure
  | zero {id : DataPathId} (zero : id.isAssigned = false) :
    Denies table (.ok id) (.invalidAnswer .pathIdZero)
  | taken {id : DataPathId} {path : DataPath} (assigned : id.isAssigned = true)
    (there : table.get? id = some path) : Denies table (.ok id) (.invalidAnswer .duplicatePathId)

theorem enterInitiated_of_denies (request : InitiateRequest) {assigned : Except Failure DataPathId}
    {failure : Failure} (denies : table.Denies assigned failure) :
    table.enterInitiated request assigned = (.error failure, table) := by
  cases denies with
  | failed failure => rfl
  | zero zero => simp [enterInitiated, zero]
  | @taken id path assigned there =>
    have contained : table.paths.contains id = true := by
      rw [contains_paths, there]
      rfl
    simp [enterInitiated, assigned, contained]

/-- **An initiation that brings no path** has been there for nothing. If no other is under way, nothing
was held back, and nothing is. -/
theorem resolveInitiate_beginInitiate (absent : table.initiating[txn]? = none)
    (held : table.initiating = ∅ → table.held = ∅) (request : InitiateRequest)
    {assigned : Except Failure DataPathId} {failure : Failure}
    (denies : table.Denies assigned failure) :
    (table.beginInitiate txn request).resolveInitiate txn assigned = (.error failure, table) := by
  have found : (table.beginInitiate txn request).initiating[txn]? = some request := by
    show (table.initiating.insert txn request)[txn]? = _
    rw [Tables.getElem?_insert, if_pos rfl]
  have rest : { table.beginInitiate txn request with
      initiating := (table.beginInitiate txn request).initiating.erase txn } = table := by
    show { table with initiating := (table.initiating.insert txn request).erase txn } = table
    rw [Tables.erase_insert_of_absent absent]
  rw [resolveInitiate_of_found found, rest]
  dsimp only
  rw [enterInitiated_of_denies request denies]
  show (_, table.closing none) = (_, table)
  rw [closing]
  split
  next empty =>
    rw [onlyHeld]
    dsimp only
    rw [← held (Std.ExtTreeMap.isEmpty_iff.mp empty)]
  next => rfl

end DataPathTable

/-! ## Answers that are failures -/

/-- What a positive answer to a request has to bring. -/
inductive Request.Yield where
  | nothing
  | capabilities
  | session
  | path

/-- A query yields the firmware's capabilities, a start a session, and an initiation a path. -/
def Request.yield : Request → Request.Yield
  | getCapabilities => .capabilities
  | publish id _ | subscribe id _ => if id.isAssigned then .nothing else .session
  | initiateDataPath _ => .path
  | _ => .nothing

/-- Whether a command that failed is undone. Stops and ends are carried through instead, and so are
answers to peers. -/
def CommandKind.isReversible : CommandKind → Bool
  | stopPublish | stopSubscribe | respondDataPath | endDataPath => false
  | _ => true

/-- Whether a command ends something that is there. -/
def CommandKind.isEnding : CommandKind → Bool
  | stopPublish | stopSubscribe | endDataPath => true
  | _ => false

/-- **The answers to a request that are failures**, and what the caller is told of them: the firmware
refuses, or it agrees and does not bring what it has to. -/
inductive Request.Fails (engine : Engine) (request : Request) :
    Except FirmwareStatus AnswerPayload → Failure → Prop
  | refused (status : FirmwareStatus) (reversible : request.kind.isReversible = true) :
    Fails engine request (.error status) (.firmware status)
  | noCapabilities (query : request.yield = .capabilities) (payload : AnswerPayload)
    (other : ∀ report, payload ≠ .capabilities report) :
    Fails engine request (.ok payload) (.invalidAnswer .expectedCapabilities)
  | noSession (start : request.yield = .session) (payload : AnswerPayload)
    (other : ∀ id, payload ≠ .sessionId id) :
    Fails engine request (.ok payload) (.invalidAnswer .expectedSessionId)
  | zeroSession (start : request.yield = .session) (id : SessionId) (zero : id.raw = 0) :
    Fails engine request (.ok (.sessionId id)) (.invalidAnswer .sessionIdZero)
  | takenSession (start : request.yield = .session) (id : SessionId) (session : Session)
    (there : engine.sessions.get? id = some session) :
    Fails engine request (.ok (.sessionId id)) (.invalidAnswer .duplicateSessionId)
  | noPath (initiation : request.yield = .path) (payload : AnswerPayload)
    (other : ∀ id, payload ≠ .pathId id) :
    Fails engine request (.ok payload) (.invalidAnswer .expectedPathId)
  | zeroPath (initiation : request.yield = .path) (id : DataPathId) (zero : id.raw = 0) :
    Fails engine request (.ok (.pathId id)) (.invalidAnswer .pathIdZero)
  | takenPath (initiation : request.yield = .path) (id : DataPathId) (path : DataPath)
    (there : engine.paths.get? id = some path) :
    Fails engine request (.ok (.pathId id)) (.invalidAnswer .duplicatePathId)

namespace Request.Fails

variable {engine : Engine} {request : Request} {answer : Except FirmwareStatus AnswerPayload}
  {failure : Failure}

/-- Where nothing has to be brought, the firmware has refused. -/
theorem refused_of_nothing (fails : request.Fails engine answer failure)
    (plain : request.yield = .nothing) :
    request.kind.isReversible = true ∧ answer.mapError .firmware = .error failure := by
  cases fails with
  | refused status reversible => exact ⟨reversible, rfl⟩
  | noCapabilities other | noSession other | zeroSession other | takenSession other | noPath other
  | zeroPath other | takenPath other =>
    rw [plain] at other
    cases other

/-- The end of a start that fails brings no session. -/
theorem deniesSession (fails : request.Fails engine answer failure)
    (coherent : engine.Coherent) (start : request.yield = .session) :
    engine.sessions.Denies (Outcome.sessionId (answer.mapError .firmware)) failure := by
  have sessions : engine.sessions.Agrees _ := coherent.agrees .sessions
  cases fails with
  | refused status => exact .failed _
  | noSession _ payload other =>
    cases payload with
    | sessionId id => exact absurd rfl (other id)
    | _ => exact .failed _
  | zeroSession _ id zero => exact .zero (by simp [SessionId.isAssigned, zero])
  | takenSession _ id session there => exact .taken (sessions.assigned there) there
  | noCapabilities other | noPath other | zeroPath other | takenPath other =>
    rw [start] at other
    cases other

/-- The end of an initiation that fails brings no path. -/
theorem deniesPath (fails : request.Fails engine answer failure)
    (coherent : engine.Coherent) (initiation : request.yield = .path) :
    engine.paths.Denies (Outcome.pathId (answer.mapError .firmware)) failure := by
  have paths : engine.paths.Agrees _ := coherent.agrees .paths
  cases fails with
  | refused status => exact .failed _
  | noPath _ payload other =>
    cases payload with
    | pathId id => exact absurd rfl (other id)
    | _ => exact .failed _
  | zeroPath _ id zero => exact .zero (by simp [DataPathId.isAssigned, zero])
  | takenPath _ id path there => exact .taken (paths.assigned there) there
  | noCapabilities other | noSession other | zeroSession other | takenSession other =>
    rw [initiation] at other
    cases other

end Request.Fails

namespace Engine

variable {engine : Engine} {request : Request} {dispatch : Dispatch} {record : TransactionRecord}
  {answer : Except FirmwareStatus AnswerPayload} {failure : Failure} {id : TransactionId}

/-! ## Requests that are undone -/

/-- What a request is staged upon plays no part in what it stages. -/
theorem upon_stage (engine : Engine) (ledger : Ledger) (txn : TransactionId) (request : Request) :
    (engine.stage txn request).upon ledger = (engine.upon ledger).stage txn request := by
  cases request <;> rfl

namespace Coherent

/-- Under the number of a command that is filed, no session has a command. -/
theorem notMem_inFlight (coherent : engine.Coherent)
    (opens : engine.ledger.Opens record dispatch .caller) {number : SessionId} {session : Session}
    (found : engine.sessions.get? number = some session) : record.id ∉ session.inFlight := by
  have sessions : engine.sessions.Agrees _ := coherent.agrees .sessions
  intro there
  obtain ⟨other, out, -⟩ := (sessions.session found).inFlight_iff.mp there
  rw [opens.absent .sessions] at out
  cases out

end Coherent

/-! ## Settlements that failed -/

variable {txn : TransactionId} {outcome : Outcome} {sessions : SessionRegistry}
  {paths : DataPathTable}

theorem settleConfigure_failed {interface : Interface} {initial : Bool}
    (undone : engine.interface.completeEnable false = (some initial, interface)) :
    engine.settleConfigure (.error failure) =
      ⟨.error failure, { engine with interface := interface }, []⟩ := by
  have failed : (Except.error failure : Outcome).isOk = false := rfl
  rw [settleConfigure, failed, undone]
  rfl

theorem settleStart_failed
    (undone : engine.sessions.resolveNew txn outcome.sessionId = (.error failure, sessions)) :
    engine.settleStart txn outcome = ⟨.error failure, { engine with sessions := sessions }, []⟩ := by
  rw [settleStart, undone]
  rfl

theorem settleUpdate_failed {session : SessionId} (undone : engine.sessions.resolveUpdate session txn
    (Outcome.plain (.error failure)) = (.error failure, sessions)) :
    engine.settleUpdate txn session (.error failure) =
      ⟨.error failure, { engine with sessions := sessions }, []⟩ := by
  rw [settleUpdate, undone]
  rfl

theorem settleInitiate_failed
    (undone : engine.paths.resolveInitiate txn outcome.pathId = (.error failure, paths)) :
    engine.settleInitiate txn outcome = ⟨.error failure, { engine with paths := paths }, []⟩ := by
  rw [settleInitiate, undone]
  rfl

namespace Coherent

/-- A start or an update that fails. -/
theorem settle_discovery (coherent : engine.Coherent) {number : SessionId} {config : DiscoveryConfig}
    (admitted : engine.vetDiscovery number config = .ok dispatch)
    (opens : engine.ledger.Opens record dispatch .caller)
    (yield : request.yield = if number.isAssigned then .nothing else .session)
    (fails : request.Fails engine answer failure) (ledger : Ledger) :
    ((engine.upon ledger).stageDiscovery record.id number config).settle record
        (answer.mapError .firmware) = ⟨.error failure, engine.upon ledger, []⟩ := by
  have sessions : engine.sessions.Agrees _ := coherent.agrees .sessions
  obtain ⟨command, about⟩ := vetDiscovery_ok admitted
  have kind : record.kind = config.role.startKind := by
    rw [opens.kind, command, kind_ofDiscovery]
  have notDisable : record.kind ≠ .disable := by
    rw [kind]
    cases config.role <;> simp [SessionRole.startKind]
  rw [settle_eq_settleByItself notDisable]
  rcases about with ⟨unassigned, context⟩ | ⟨assigned, context, -⟩
  · have absent : engine.sessions.starting[record.id]? = none := by
      apply Option.eq_none_iff_forall_ne_some.mpr
      intro config there
      obtain ⟨other, out, -⟩ := sessions.out_of_starting there
      rw [opens.absent .sessions] at out
      cases out
    rw [unassigned] at yield
    have denies := fails.deniesSession coherent yield
    rw [settleByItself_start kind (opens.context.trans context), stageDiscovery,
      if_neg (by simp [unassigned])]
    exact settleStart_failed (SessionRegistry.resolveNew_beginNew absent config denies)
  · rw [assigned] at yield
    obtain ⟨-, refused⟩ := fails.refused_of_nothing yield
    have nonzero : number.raw ≠ 0 := by simpa [SessionId.isAssigned] using assigned
    obtain ⟨session, found, active, -, noUpdate⟩ :=
      (admits_of_vetDiscovery admitted).update nonzero
    have absent := coherent.notMem_inFlight opens found
    rw [settleByItself_update kind (opens.context.trans context), stageDiscovery, if_pos assigned,
      refused]
    exact settleUpdate_failed
      (SessionRegistry.resolveUpdate_beginUpdate found active noUpdate absent config failure)

/-- **An admitted request that fails is settled as if it had not been made.** -/
theorem settle_stage (coherent : engine.Coherent) (tidy : engine.Tidy)
    (admitted : engine.vet request = .ok dispatch)
    (opens : engine.ledger.Opens record dispatch .caller)
    (fails : request.Fails engine answer failure) (ledger : Ledger) :
    ((engine.upon ledger).stage record.id request).settle record (answer.mapError .firmware) =
      ⟨.error failure, engine.upon ledger, []⟩ := by
  have admits := admits_of_vet admitted
  have kind : record.kind = request.kind := opens.kind.trans (kind_of_vet admitted)
  have interface : engine.interface.Agrees _ := coherent.agrees .interface
  cases request with
  | getCapabilities =>
    rw [settle_eq_settleByItself (by simp [kind, Request.kind]), settleByItself_capabilities kind]
    cases fails with
    | refused status => rfl
    | noCapabilities _ payload other =>
      cases payload with
      | capabilities report => exact absurd rfl (other report)
      | _ => rfl
    | noSession other | zeroSession other | takenSession other | noPath other | zeroPath other
    | takenPath other => cases other
  | enable request =>
    obtain ⟨-, refused⟩ := fails.refused_of_nothing rfl
    obtain ⟨initial, passed, -⟩ := bind_eq_ok.mp admitted
    have phase := Interface.checkEnable_eq_ok.mp passed
    have staged : engine.interface.staged = none := by
      have idle := interface.staged_iff
      cases initial <;> simp_all
    have undone := Interface.completeEnable_beginEnable staged phase request
    rw [settle_eq_settleByItself (by simp [kind, Request.kind]), settleByItself_configure kind,
      refused]
    exact settleConfigure_failed undone
  | disable =>
    obtain ⟨-, refused⟩ := fails.refused_of_nothing rfl
    obtain ⟨passed, -⟩ := check_bind_eq_ok.mp admitted
    have undone := Interface.completeDisable_beginDisable (Interface.requireEnabled_eq_ok.mp passed)
    rw [settle_disable kind, refused, settleDisable_failed]
    show (⟨_, { engine.upon ledger with
      interface := (engine.interface.beginDisable.completeDisable false).2 }, []⟩ : Settlement) = _
    rw [undone]
    rfl
  | publish number config => exact coherent.settle_discovery admitted opens rfl fails ledger
  | subscribe number config => exact coherent.settle_discovery admitted opens rfl fails ledger
  | sendMessage number peer payload =>
    obtain ⟨-, refused⟩ := fails.refused_of_nothing rfl
    obtain ⟨⟨address, rfl⟩, -⟩ := vetMessage_ok admitted
    obtain ⟨session, -, found, active, -⟩ := AdmitsMessage.met admits
    have undone := SessionRegistry.detach_attach found active (coherent.notMem_inFlight opens found)
    rw [settle_eq_settleByItself (by simp [kind, Request.kind]),
      settleByItself_message kind opens.context, refused, settleMessage]
    show (⟨_, { engine.upon ledger with
      sessions := ((engine.sessions.attach number record.id).detach number record.id).2 },
      []⟩ : Settlement) = _
    rw [undone]
    rfl
  | createInterface name =>
    obtain ⟨-, refused⟩ := fails.refused_of_nothing rfl
    obtain ⟨rfl, free⟩ := vetCreate_ok admitted
    have undone := DataInterfaceTable.resolveCreate_beginCreate free record.id
    rw [settle_eq_settleByItself (by simp [kind, Request.kind]),
      settleByItself_create kind opens.context, refused, settleCreate]
    show (⟨_, { engine.upon ledger with dataInterfaces :=
      (engine.dataInterfaces.beginCreate name record.id).resolveCreate name false },
      []⟩ : Settlement) = _
    rw [undone]
    rfl
  | deleteInterface name =>
    obtain ⟨-, refused⟩ := fails.refused_of_nothing rfl
    obtain ⟨rfl, ready⟩ := vetDelete_ok admitted
    have undone := DataInterfaceTable.resolveDelete_beginDelete ready record.id
    rw [settle_eq_settleByItself (by simp [kind, Request.kind]),
      settleByItself_delete kind opens.context, refused, settleDelete]
    show (⟨_, { engine.upon ledger with dataInterfaces :=
      (engine.dataInterfaces.beginDelete name record.id).resolveDelete name false },
      []⟩ : Settlement) = _
    rw [undone]
    rfl
  | initiateDataPath request =>
    have paths : engine.paths.Agrees _ := coherent.agrees .paths
    obtain rfl := vetInitiate_ok admitted
    have absent : engine.paths.initiating[record.id]? = none := by
      apply Option.eq_none_iff_forall_ne_some.mpr
      intro request there
      obtain ⟨other, out, -⟩ := paths.out_of_initiating there
      rw [opens.absent .paths] at out
      cases out
    have denies := fails.deniesPath coherent rfl
    rw [settle_eq_settleByItself (by simp [kind, Request.kind]),
      settleByItself_initiate kind opens.context]
    exact settleInitiate_failed
      (DataPathTable.resolveInitiate_beginInitiate absent tidy.held request denies)
  | stopPublish | stopSubscribe | respondDataPath | endDataPath =>
    obtain ⟨reversible, -⟩ := fails.refused_of_nothing rfl
    cases reversible

/-- **A request that fails next is undone**, whatever else is under way, and the caller hears of the
failure once. -/
theorem onCompleted_stage (coherent : engine.Coherent) (tidy : engine.Tidy)
    (admitted : engine.vet request = .ok dispatch)
    (opens : engine.ledger.Opens record dispatch .caller)
    (fails : request.Fails engine answer failure) :
    ((engine.upon (engine.ledger.file record)).stage record.id request).onCompleted record.id answer =
      (engine.upon ((engine.ledger.file record).rollback record.id), [record.failed failure]) := by
  have staged : (engine.upon (engine.ledger.file record)).stage record.id request =
      (engine.stage record.id request).upon (engine.ledger.file record) :=
    (upon_stage engine _ record.id request).symm
  have onFile : (engine.ledger.file record).get? record.id = some record := by
    rw [Ledger.get?_file, if_pos rfl]
  rw [staged, onCompleted_of_onFile onFile]
  show ((engine.stage record.id request).upon ((engine.ledger.file record).rollback record.id)).conclude
    record (answer.mapError .firmware) = _
  rw [upon_stage, conclude_caller opens.origin,
    coherent.settle_stage tidy admitted opens fails ((engine.ledger.file record).rollback record.id)]
  rfl

end Coherent

/-! ## Stops and ends are carried through -/

/-- What the end of a stop makes of the engine. -/
theorem engine_conclude_stop {role : SessionRole} {session : SessionId}
    (kind : record.kind = role.stopKind) (about : record.context = .session session)
    (origin : record.origin = .caller) (outcome : Outcome) :
    (engine.conclude record outcome).1 =
      { engine with sessions := (engine.sessions.resolveStop session record.id).2 } := by
  have notDisable : record.kind ≠ .disable := by
    rw [kind]
    cases role <;> simp [SessionRole.stopKind]
  rw [conclude_caller origin, settle_eq_settleByItself notDisable, settleByItself_stop kind about,
    announce_of_ne record fun path => by cases outcome <;> simp [settleStop, Outcome.achieving]]
  rfl

/-- What the end of a command to end a path makes of it. -/
theorem engine_conclude_close {path : DataPathId} (kind : record.kind = .endDataPath)
    (about : record.context = .dataPath path) (origin : record.origin = .caller)
    (outcome : Outcome) :
    (engine.conclude record outcome).1 =
      { engine with paths := (engine.paths.resolveEnd path record.id).2 } := by
  rw [conclude_caller origin, settle_eq_settleByItself (by simp [kind]),
    settleByItself_close kind about,
    announce_of_ne record fun path => by cases outcome <;> simp [settleEnd, Outcome.achieving]]
  rfl

/-- **Whatever the firmware answers to a stop or an end**, the engine is then the same. -/
theorem Coherent.onCompleted_carriedThrough (coherent : engine.Coherent)
    (onFile : engine.ledger.get? id = some record) (ending : record.kind.isEnding = true)
    (answer other : Except FirmwareStatus AnswerPayload) :
    (engine.onCompleted id answer).1 = (engine.onCompleted id other).1 := by
  rw [onCompleted_of_onFile onFile, onCompleted_of_onFile onFile]
  have commission : Commission record.kind record.context record.origin :=
    coherent.commissioned onFile
  generalize kind : record.kind = kind', context : record.context = context',
    origin : record.origin = origin' at commission
  rw [kind] at ending
  cases commission with
  | stop role session =>
    rw [engine_conclude_stop kind context origin, engine_conclude_stop kind context origin]
  | close path =>
    rw [engine_conclude_close kind context origin, engine_conclude_close kind context origin]
  | start role | update role => cases role <;> cases ending
  | _ => cases ending

end Engine

end NanHost
