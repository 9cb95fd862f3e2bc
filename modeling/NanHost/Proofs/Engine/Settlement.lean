import NanHost.Engine.Completion

/-!
# Settlements — one for each form of command

`Engine.settleByItself` decides by the kind of a record and by what the command was about. In each
form in which commands are issued it is one settlement, named here; a proof that goes through the
forms of `Commission` rewrites with these and does not open the decision again.
-/

namespace NanHost

theorem Outcome.of_sessionId {outcome : Outcome} {id : SessionId}
    (given : outcome.sessionId = .ok id) : outcome = .ok (.sessionId id) := by
  unfold Outcome.sessionId at given
  split at given
  · rw [Except.ok.inj given]
  · cases given
  · cases given

theorem Outcome.of_pathId {outcome : Outcome} {id : DataPathId}
    (given : outcome.pathId = .ok id) : outcome = .ok (.pathId id) := by
  unfold Outcome.pathId at given
  split at given
  · rw [Except.ok.inj given]
  · cases given
  · cases given

namespace Engine

variable {engine : Engine} {record : TransactionRecord}

theorem settleByItself_capabilities (kind : record.kind = .capabilities) (outcome : Outcome) :
    engine.settleByItself record outcome = engine.settleCapabilities outcome := by
  simp only [settleByItself, kind]

theorem settleByItself_configure (kind : record.kind = .configure) (outcome : Outcome) :
    engine.settleByItself record outcome = engine.settleConfigure outcome := by
  simp only [settleByItself, kind]

theorem settleByItself_start {role role' : SessionRole} (kind : record.kind = role.startKind)
    (about : record.context = .newSession role') (outcome : Outcome) :
    engine.settleByItself record outcome = engine.settleStart record.id outcome := by
  cases role <;> simp only [settleByItself, kind, about, SessionRole.startKind]

theorem settleByItself_update {role : SessionRole} {session : SessionId}
    (kind : record.kind = role.startKind) (about : record.context = .session session)
    (outcome : Outcome) :
    engine.settleByItself record outcome = engine.settleUpdate record.id session outcome := by
  cases role <;> simp only [settleByItself, kind, about, SessionRole.startKind]

theorem settleByItself_message {session : SessionId} (kind : record.kind = .sendMessage)
    (about : record.context = .session session) (outcome : Outcome) :
    engine.settleByItself record outcome = engine.settleMessage record.id session outcome := by
  simp only [settleByItself, kind, about]

theorem settleByItself_stop {role : SessionRole} {session : SessionId}
    (kind : record.kind = role.stopKind) (about : record.context = .session session)
    (outcome : Outcome) :
    engine.settleByItself record outcome = engine.settleStop record.id session outcome := by
  cases role <;> simp only [settleByItself, kind, about, SessionRole.stopKind]

theorem settleByItself_create {name : String} (kind : record.kind = .createInterface)
    (about : record.context = .dataInterface name) (outcome : Outcome) :
    engine.settleByItself record outcome = engine.settleCreate name outcome := by
  simp only [settleByItself, kind, about]

theorem settleByItself_delete {name : String} (kind : record.kind = .deleteInterface)
    (about : record.context = .dataInterface name) (outcome : Outcome) :
    engine.settleByItself record outcome = engine.settleDelete name outcome := by
  simp only [settleByItself, kind, about]

theorem settleByItself_initiate (kind : record.kind = .initiateDataPath)
    (about : record.context = .newDataPath) (outcome : Outcome) :
    engine.settleByItself record outcome = engine.settleInitiate record.id outcome := by
  simp only [settleByItself, kind, about]

theorem settleByItself_respond {path : DataPathId} (kind : record.kind = .respondDataPath)
    (about : record.context = .dataPath path) (outcome : Outcome) :
    engine.settleByItself record outcome = engine.settleRespond record.id path outcome := by
  simp only [settleByItself, kind, about]

theorem settleByItself_close {path : DataPathId} (kind : record.kind = .endDataPath)
    (about : record.context = .dataPath path) (outcome : Outcome) :
    engine.settleByItself record outcome = engine.settleEnd record.id path outcome := by
  simp only [settleByItself, kind, about]

/-- **A command that failed achieves nothing**: its result is a failure. -/
theorem result_settleByItself_failed (engine : Engine) (record : TransactionRecord)
    (failure : Failure) :
    ∃ reason, (engine.settleByItself record (.error failure)).result = .error reason := by
  have mapped {α : Type} {detail : α → CompletionDetail} {result : Except Failure α}
      (failed : ∃ reason, result = .error reason) : ∃ reason, result.map detail = .error reason := by
    obtain ⟨reason, rfl⟩ := failed
    exact ⟨reason, rfl⟩
  have start : ∃ reason, (engine.sessions.resolveNew record.id (.error failure)).1 =
      .error reason := by
    unfold SessionRegistry.resolveNew
    split <;> exact ⟨_, rfl⟩
  have update (id : SessionId) : ∃ reason,
      (engine.sessions.resolveUpdate id record.id (.error failure)).1 = .error reason := by
    unfold SessionRegistry.resolveUpdate
    split
    · exact ⟨_, rfl⟩
    · dsimp only
      split <;> exact ⟨_, rfl⟩
  have initiate : ∃ reason, (engine.paths.resolveInitiate record.id (.error failure)).1 =
      .error reason := by
    unfold DataPathTable.resolveInitiate DataPathTable.enterInitiated
    split <;> exact ⟨_, rfl⟩
  have respond (id : DataPathId) : ∃ reason,
      (engine.paths.resolveRespond id record.id (.error failure)).1 = .error reason := by
    unfold DataPathTable.resolveRespond
    split
    · exact ⟨_, rfl⟩
    · cases failure <;> exact ⟨_, rfl⟩
  have configure : ∃ reason, (engine.settleConfigure (.error failure)).result = .error reason := by
    unfold settleConfigure
    split <;> exact ⟨_, rfl⟩
  unfold settleByItself
  split
  next => exact ⟨_, rfl⟩
  next => exact configure
  next => exact mapped start
  next => exact mapped start
  next id _ _ => exact mapped (update id)
  next id _ _ => exact mapped (update id)
  next => exact ⟨_, rfl⟩
  next => exact ⟨_, rfl⟩
  next => exact ⟨_, rfl⟩
  next => exact ⟨_, rfl⟩
  next => exact ⟨_, rfl⟩
  next => exact mapped initiate
  next id _ _ => exact mapped (respond id)
  next => exact ⟨_, rfl⟩
  next => exact ⟨_, rfl⟩

/-- Whatever a configuration came to, the interface takes on what its stage makes of it. -/
theorem engine_settleConfigure (engine : Engine) (outcome : Outcome) :
    (engine.settleConfigure outcome).engine =
      { engine with interface := (engine.interface.completeEnable outcome.isOk).2 } := by
  unfold settleConfigure Interface.completeEnable
  cases engine.interface.phase <;> rfl

/-- A disabling that takes the interface down settles as what the teardown leaves and tells. -/
theorem settleDisable_down {interface : Interface} {outcome : Outcome}
    (down : engine.interface.completeDisable outcome.isOk = (true, interface)) :
    engine.settleDisable outcome =
      ⟨.ok .disabled, ({ engine with interface := interface }.teardown .interfaceDisabled).1,
        ({ engine with interface := interface }.teardown .interfaceDisabled).2⟩ := by
  unfold settleDisable
  rw [down]

/-! ## Concluding -/

/-- Whether a record still waits plays no part in how it is concluded. -/
theorem conclude_retired (engine : Engine) (record : TransactionRecord) (outcome : Outcome) :
    engine.conclude record.retired outcome = engine.conclude record outcome := rfl

/-- A command of the engine's own is struck off, however it ended. -/
theorem conclude_engine (origin : record.origin = .engine) (outcome : Outcome) :
    engine.conclude record outcome = engine.strikeOff record := by
  simp only [conclude, origin]

theorem conclude_caller (origin : record.origin = .caller) (outcome : Outcome) :
    engine.conclude record outcome = announce record (engine.settle record outcome) := by
  simp only [conclude, origin]

/-- A command that leaves the interface up is settled by itself. -/
theorem settle_eq_settleByItself (notDisable : record.kind ≠ .disable) (outcome : Outcome) :
    engine.settle record outcome = engine.settleByItself record outcome := by
  rw [settle, if_neg notDisable]

theorem settle_disable (disable : record.kind = .disable) (outcome : Outcome) :
    engine.settle record outcome = engine.settleDisable outcome := by
  rw [settle, if_pos disable]

/-- A command that leaves the interface up is concluded by itself. -/
theorem conclude_eq_concludeByItself (notDisable : record.kind ≠ .disable) (outcome : Outcome) :
    engine.conclude record outcome = engine.concludeByItself record outcome := by
  unfold conclude concludeByItself
  rw [settle_eq_settleByItself notDisable]

/-- A settlement that initiated no data path is announced by its completion alone. -/
theorem announce_of_ne (record : TransactionRecord) {settlement : Settlement}
    (notInitiated : ∀ path, settlement.result ≠ .ok (.dataPathInitiated path)) :
    announce record settlement =
      (settlement.engine,
        settlement.notices ++ [.completed ⟨record.id, record.kind, settlement.result⟩]) := by
  unfold announce
  split
  next path initiated => exact absurd initiated (notInitiated path)
  next => rfl

end Engine

end NanHost
