import NanHost.Proofs.Engine.Admissible
import NanHost.Proofs.Engine.Announcements
import NanHost.Proofs.Engine.Faults
import NanHost.Proofs.Simulation.Replies

/-!
# Success — a command that is answered at once, with what it asks for, succeeds

Between the moment when a request is staged and the answer to its command the tables may move on, and
a command may fail although the firmware has carried it out. If nothing happens in between it does not.

## What is proved

`Engine.result_settle`: a request that was admitted and staged, and whose command is answered by what it
asks for (`Engine.Answers`), ends with the detail of its own kind and target (`Simulator.detail`).
Each kind of command that has something to check when it ends has a lemma of its own.
-/

namespace NanHost

/-- What a request is reported with that a willing firmware carries out at once. -/
def Simulator.detail (simulator : Simulator) (engine : Engine) : Request → CompletionDetail
  | .getCapabilities => .capabilities simulator.capabilities
  | .enable _ => .enabled (engine.interface.phase = .disabled)
  | .disable => .disabled
  | .publish id _ =>
    if id.isAssigned then .sessionUpdated id
    else .sessionStarted ⟨simulator.nextSession⟩ .publisher
  | .subscribe id _ =>
    if id.isAssigned then .sessionUpdated id
    else .sessionStarted ⟨simulator.nextSession⟩ .subscriber
  | .sendMessage .. => .messageSent
  | .stopPublish id | .stopSubscribe id => .sessionStopped id
  | .createInterface name => .interfaceCreated name
  | .deleteInterface name => .interfaceDeleted name
  | .initiateDataPath _ => .dataPathInitiated ⟨simulator.nextPath⟩
  | .respondDataPath request => .dataPathResponded request.pathId request.accept
  | .endDataPath id => .dataPathEnded id

namespace Engine

variable {engine : Engine} {record : TransactionRecord} {dispatch : Dispatch}

/-- A start whose answer brings a number that can be used goes well. -/
theorem result_start {txn : TransactionId} {config : DiscoveryConfig} {id : SessionId}
    (under : engine.sessions.starting[txn]? = some config) (assigned : id.isAssigned = true)
    (free : engine.sessions.get? id = none) :
    (engine.settleStart txn (.ok (.sessionId id))).result = .ok (.sessionStarted id config.role) := by
  have absent : engine.sessions.sessions.contains id = false :=
    Std.ExtTreeMap.contains_eq_isSome_getElem?.trans (congrArg Option.isSome free)
  simp [settleStart, Outcome.sessionId, SessionRegistry.resolveNew, under, assigned, absent,
    Except.map]

/-- So does an initiation. -/
theorem result_initiate {txn : TransactionId} {request : InitiateRequest} {id : DataPathId}
    (under : engine.paths.initiating[txn]? = some request) (assigned : id.isAssigned = true)
    (free : engine.paths.get? id = none) :
    (engine.settleInitiate txn (.ok (.pathId id))).result = .ok (.dataPathInitiated id) := by
  have absent : engine.paths.paths.contains id = false :=
    (DataPathTable.contains_paths engine.paths id).trans (congrArg Option.isSome free)
  simp [settleInitiate, Outcome.pathId, DataPathTable.resolveInitiate, DataPathTable.enterInitiated,
    under, assigned, absent, Except.map]

/-- An update of a session that is active goes well. -/
theorem result_update {txn : TransactionId} {id : SessionId} {session : Session}
    {payload : AnswerPayload} (found : engine.sessions.get? id = some session)
    (active : session.state = .active) :
    (engine.settleUpdate txn id (.ok payload)).result = .ok (.sessionUpdated id) := by
  simp [settleUpdate, SessionRegistry.resolveUpdate, found, Session.isActive, active, Outcome.plain,
    Except.map]

/-- The start or the update of a session. -/
theorem result_discovery {id : SessionId} {config : DiscoveryConfig} {rest : Ledger}
    (admitted : engine.vetDiscovery id config = .ok dispatch)
    (opens : engine.ledger.Opens record dispatch .caller) (simulator : Simulator)
    (answers : (engine.stageDiscovery record.id id config).Answers record
      (simulator.answer dispatch.command).1.1) :
    (((engine.stageDiscovery record.id id config).upon rest).settleByItself record
      (.ok (simulator.answer dispatch.command).1.1)).result =
        .ok (if id.isAssigned then .sessionUpdated id
          else .sessionStarted ⟨simulator.nextSession⟩ config.role) := by
  obtain ⟨command, about⟩ := vetDiscovery_ok admitted
  have kind : record.kind = config.role.startKind := by
    rw [opens.kind, command, kind_ofDiscovery]
  rcases about with ⟨unassigned, start⟩ | ⟨assigned, update, _⟩
  · have starts : dispatch.command.starts = true := by
      rw [command, Command.starts_ofDiscovery, unassigned]
      rfl
    have brings := (simulator.answering dispatch.command).of_start starts
    obtain ⟨number, same, assigned, free⟩ := answers.session _ (opens.context.trans start)
    obtain rfl := AnswerPayload.sessionId.inj (brings.symm.trans same)
    rw [settleByItself_start kind (opens.context.trans start), brings,
      if_neg (Bool.eq_false_iff.mp unassigned)]
    refine result_start ?_ assigned free
    simp [stageDiscovery, unassigned, SessionRegistry.beginNew, upon]
  · obtain ⟨session, found, active, _⟩ := (admits_of_vetDiscovery admitted).update (by
      simpa [SessionId.isAssigned] using assigned)
    rw [settleByItself_update kind (opens.context.trans update), if_pos assigned]
    have there : ((engine.stageDiscovery record.id id config).upon rest).sessions.get? id =
        some { session.attach record.id with pendingUpdate := some (record.id, config) } := by
      show (engine.stageDiscovery record.id id config).sessions.get? id = _
      unfold stageDiscovery
      rw [if_pos assigned, SessionRegistry.beginUpdate, SessionRegistry.get?_update, if_pos rfl, found]
      rfl
    exact result_update there active

/-- A configuration that the interface could take goes well. -/
theorem result_configure {request : EnableRequest} {initial : Bool} {payload : AnswerPayload}
    {rest : Ledger} (stage : engine.interface.phase = if initial then .disabled else .enabled) :
    (({ engine with interface := engine.interface.beginEnable request }.upon rest).settleConfigure
      (.ok payload)).result = .ok (.enabled initial) := by
  cases initial <;>
    simp [settleConfigure, upon, Interface.beginEnable, Interface.completeEnable, stage,
      Outcome.achieving]

/-- So does a disabling. -/
theorem result_disable {payload : AnswerPayload} {rest : Ledger} :
    (({ engine with interface := engine.interface.beginDisable }.upon rest).settleDisable
      (.ok payload)).result = .ok .disabled := by
  simp [settleDisable, upon, Interface.beginDisable, Interface.completeDisable, Except.isOk,
    Except.toBool]

/-- So does the answer to a peer that waits for it. -/
theorem result_respond {request : RespondRequest} {path : DataPath} {txn : TransactionId}
    {payload : AnswerPayload} {rest : Ledger}
    (found : engine.paths.get? request.pathId = some path)
    (waits : path.state = .awaitingLocalResponse) :
    (({ engine with paths := engine.paths.beginRespond txn request }.upon rest).settleRespond txn
      request.pathId (.ok payload)).result =
        .ok (.dataPathResponded request.pathId request.accept) := by
  have there : (engine.paths.beginRespond txn request).get? request.pathId =
      some ((path.attach txn).answered request) := by
    rw [DataPathTable.beginRespond, DataPathTable.get?_update, if_pos rfl, found]
    rfl
  have given : ((path.attach txn).answered request).response = some request.accept := by
    unfold DataPath.answered
    split <;> rfl
  have live (accepts : request.accept = true) :
      ((path.attach txn).answered request).isLive = true := by
    simp [DataPath.answered, accepts, DataPath.isLive, DataPath.attach, waits]
  have resolved : ((engine.paths.beginRespond txn request).resolveRespond request.pathId txn
      (.ok ())).1 = .ok request.accept := by
    unfold DataPathTable.resolveRespond
    rw [there]
    dsimp only
    rw [given]
    cases accepts : request.accept with
    | false => rfl
    | true => simp [live accepts]
  show Except.map _ ((engine.paths.beginRespond txn request).resolveRespond request.pathId txn
    (.ok ())).1 = _
  rw [resolved]
  rfl

/-- **A command that is answered at once, with what it asks for, succeeds**, and its success is reported
with the detail of its request. -/
theorem result_settle {request : Request} {rest : Ledger} (admitted : engine.vet request = .ok dispatch)
    (opens : engine.ledger.Opens record dispatch .caller) (simulator : Simulator)
    (answers : (engine.stage record.id request).Answers record
      (simulator.answer dispatch.command).1.1) :
    (((engine.stage record.id request).upon rest).settle record
      (.ok (simulator.answer dispatch.command).1.1)).result =
        .ok (simulator.detail engine request) := by
  have kind : record.kind = request.kind := opens.kind.trans (kind_of_vet admitted)
  by_cases disable : request = .disable
  · subst disable
    rw [settle_disable kind]
    exact result_disable
  have notDisable : record.kind ≠ .disable := by
    rw [kind]
    intro same
    cases request <;> first | exact disable rfl | cases same
  rw [settle_eq_settleByItself notDisable]
  have admits := admits_of_vet admitted
  cases request with
  | getCapabilities =>
    obtain rfl := pure_eq_ok.mp admitted
    rw [settleByItself_capabilities kind]
    rfl
  | enable request =>
    obtain ⟨initial, passed, handed⟩ := bind_eq_ok.mp admitted
    have stage := Interface.checkEnable_eq_ok.mp passed
    rw [settleByItself_configure kind]
    refine (result_configure stage).trans ?_
    cases initial <;> simp [Simulator.detail, stage]
  | disable => exact absurd rfl disable
  | publish id config => exact result_discovery admitted opens simulator answers
  | subscribe id config => exact result_discovery admitted opens simulator answers
  | sendMessage id peer payload =>
    obtain ⟨⟨_, rfl⟩, _⟩ := vetMessage_ok admitted
    rw [settleByItself_message kind opens.context]
    rfl
  | stopPublish id =>
    obtain ⟨rfl, _⟩ := vetStop_ok admitted
    have kind : record.kind = SessionRole.publisher.stopKind := kind
    rw [settleByItself_stop kind opens.context]
    rfl
  | stopSubscribe id =>
    obtain ⟨rfl, _⟩ := vetStop_ok admitted
    have kind : record.kind = SessionRole.subscriber.stopKind := kind
    rw [settleByItself_stop kind opens.context]
    rfl
  | createInterface name =>
    obtain ⟨rfl, _⟩ := vetCreate_ok admitted
    rw [settleByItself_create kind opens.context]
    rfl
  | deleteInterface name =>
    obtain ⟨rfl, _⟩ := vetDelete_ok admitted
    rw [settleByItself_delete kind opens.context]
    rfl
  | initiateDataPath request =>
    obtain rfl := vetInitiate_ok admitted
    obtain ⟨number, same, assigned, free⟩ := answers.path opens.context
    obtain rfl := AnswerPayload.pathId.inj same
    rw [settleByItself_initiate kind opens.context]
    have under : (engine.paths.beginInitiate record.id request).initiating[record.id]? =
        some request := by
      simp [DataPathTable.beginInitiate]
    exact result_initiate under assigned free
  | respondDataPath request =>
    obtain ⟨rfl, _⟩ := vetRespond_ok admitted
    obtain ⟨path, found, waits, _⟩ := admits.2.waits
    rw [settleByItself_respond kind opens.context]
    exact result_respond found waits
  | endDataPath id =>
    obtain ⟨rfl, _⟩ := vetEnd_ok admitted
    rw [settleByItself_close kind opens.context]
    rfl

end Engine

end NanHost
