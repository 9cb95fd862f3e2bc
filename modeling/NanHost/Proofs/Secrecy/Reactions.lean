import NanHost.Engine.Event
import NanHost.Proofs.Engine.Admissible
import NanHost.Proofs.Secrecy.Paths

/-!
# Engines with masked secrets

An engine keeps secrets in the table of data paths and nowhere else. Whatever it does, it does the same
to an engine whose secrets are masked: the next engine is that of the other, with its secrets masked,
and what the caller is told is the same.

## What is proved

- `vet_masked`: a request is admitted or refused as it would be without its secrets, in the same words;
  the command that is issued is the one that would be, but for the secrets.
- `stage_masked`: so are the tables that it is entered in.
- `handle_masked`, `expireTransactions_masked`, `shutdown_masked`: no report of the firmware and no
  deadline brings out a secret.
-/

namespace NanHost

namespace Engine

/-- The engine with all secrets masked. -/
def masked (engine : Engine) : Engine := { engine with paths := engine.paths.masked }

/-- What is told, and the engine with all secrets masked. -/
def maskedReaction (reaction : Reaction) : Reaction := (reaction.1.masked, reaction.2)

/-- The settlement with all secrets masked. -/
def maskedSettlement (settlement : Settlement) : Settlement :=
  { settlement with engine := settlement.engine.masked }

variable (engine : Engine)

variable {engine} in
/-- Engines that are masked alike may be given tables that are. -/
theorem masked_withPaths {engine' : Engine} (same : engine.masked = engine'.masked)
    {table table' : DataPathTable} (tables : table.masked = table'.masked) :
    ({ engine with paths := table } : Engine).masked = { engine' with paths := table' }.masked :=
  (congrArg (fun engine : Engine => { engine with paths := table.masked }) same).trans
    (congrArg (fun paths => { engine' with paths := paths }) tables)

/-! ## Sweeps -/

/-- If each item is reacted to alike, so is a list of them. -/
theorem sweep_masked {α : Type} (react : Engine → α → Reaction)
    (alike : ∀ engine item, react (masked engine) item = maskedReaction (react engine item))
    (items : List α) : engine.masked.sweep items react = maskedReaction (engine.sweep items react) := by
  induction items generalizing engine with
  | nil => rfl
  | cons item rest ih =>
    rw [sweep_cons, alike, maskedReaction, ih, sweep_cons]
    rfl

/-! ## Events on data paths -/

@[simp] theorem paths_masked : engine.masked.paths = engine.paths.masked := rfl

@[simp] theorem ledger_masked : engine.masked.ledger = engine.ledger := rfl

@[simp] theorem interface_masked : engine.masked.interface = engine.interface := rfl

theorem onPathConfirmed_masked (id : DataPathId) (accepted : Bool) (peerInterface : MacAddress)
    (appInfo : ByteArray) (status : FirmwareStatus) :
    engine.masked.onPathConfirmed id accepted peerInterface appInfo status =
      maskedReaction (engine.onPathConfirmed id accepted peerInterface appInfo status) := by
  rw [onPathConfirmed, paths_masked, DataPathTable.onConfirmed_masked]
  rfl

theorem onPathTerminated_masked (id : DataPathId) (status : FirmwareStatus) :
    engine.masked.onPathTerminated id status =
      maskedReaction (engine.onPathTerminated id status) := by
  rw [onPathTerminated, paths_masked, DataPathTable.onTerminated_masked]
  rfl

theorem replayHeld_masked (id : DataPathId) :
    engine.masked.replayHeld id = maskedReaction (engine.replayHeld id) := by
  have replays (engine : Engine) (event : HeldEvent) :
      engine.masked.replay id event = maskedReaction (engine.replay id event) := by
    cases event with
    | confirmed => exact onPathConfirmed_masked engine id _ _ _ _
    | terminated => exact onPathTerminated_masked engine id _
  exact sweep_masked { engine with paths := (engine.paths.takeHeld id).2 }
    (fun engine event => engine.replay id event) replays (engine.paths.takeHeld id).1

/-! ## Settling -/

theorem settleInitiate_masked (txn : TransactionId) (outcome : Outcome) :
    engine.masked.settleInitiate txn outcome =
      maskedSettlement (engine.settleInitiate txn outcome) := by
  rw [settleInitiate, paths_masked, DataPathTable.resolveInitiate_masked]
  rfl

theorem settleRespond_masked (txn : TransactionId) (path : DataPathId) (outcome : Outcome) :
    engine.masked.settleRespond txn path outcome =
      maskedSettlement (engine.settleRespond txn path outcome) := by
  -- Whether a path is up or down is the same with its secrets masked.
  have asked (paths : DataPathTable) {condition : DataPath → Bool}
      (blind : ∀ path : DataPath, condition path.masked = condition path) :
      (paths.masked.get? path).any condition = (paths.get? path).any condition := by
    rw [DataPathTable.get?_masked]
    cases paths.get? path with
    | none => rfl
    | some entry => exact blind entry
  rw [settleRespond, paths_masked, DataPathTable.resolveRespond_masked]
  simp only [DataPathTable.maskedNext, asked _ DataPath.isConfirmed_masked,
    asked _ DataPath.isLive_masked]
  rfl

theorem settleEnd_masked (txn : TransactionId) (path : DataPathId) (outcome : Outcome) :
    engine.masked.settleEnd txn path outcome =
      maskedSettlement (engine.settleEnd txn path outcome) := by
  rw [settleEnd, paths_masked, DataPathTable.resolveEnd_masked]
  rfl

/-- All other commands are settled without a look at the data paths. -/
theorem settleByItself_masked (record : TransactionRecord) (outcome : Outcome) :
    engine.masked.settleByItself record outcome =
      maskedSettlement (engine.settleByItself record outcome) := by
  have capabilities : engine.masked.settleCapabilities outcome =
      maskedSettlement (engine.settleCapabilities outcome) := by
    unfold settleCapabilities
    split <;> rfl
  have configure : engine.masked.settleConfigure outcome =
      maskedSettlement (engine.settleConfigure outcome) := by
    unfold settleConfigure
    rw [interface_masked]
    rcases engine.interface.completeEnable outcome.isOk with ⟨_ | initial, interface⟩ <;> rfl
  unfold settleByItself
  split
  · exact capabilities
  · exact configure
  all_goals first
    | exact settleInitiate_masked ..
    | exact settleRespond_masked ..
    | exact settleEnd_masked ..
    | rfl

/-! ## Concluding -/

theorem announce_masked (record : TransactionRecord) (settlement : Settlement) :
    announce record (maskedSettlement settlement) = maskedReaction (announce record settlement) := by
  obtain ⟨result, engine, notices⟩ := settlement
  rcases result with failure | detail
  · rfl
  · cases detail with
    | dataPathInitiated path =>
      exact congrArg (fun reaction : Reaction => (reaction.1,
        notices ++ .completed ⟨record.id, record.kind, .ok (.dataPathInitiated path)⟩ ::
          reaction.2)) (replayHeld_masked engine path)
    | _ => rfl

theorem strikeOff_masked (record : TransactionRecord) :
    engine.masked.strikeOff record = maskedReaction (engine.strikeOff record) := by
  unfold strikeOff
  split
  · rw [paths_masked, DataPathTable.detach_masked]
    rfl
  · rfl

theorem concludeByItself_masked (record : TransactionRecord) (outcome : Outcome) :
    engine.masked.concludeByItself record outcome =
      maskedReaction (engine.concludeByItself record outcome) := by
  unfold concludeByItself
  cases record.origin with
  | engine => exact strikeOff_masked engine record
  | caller => rw [settleByItself_masked, announce_masked]

theorem teardown_masked (reason : TerminationReason) :
    engine.masked.teardown reason = maskedReaction (engine.teardown reason) := by
  unfold teardown
  rw [ledger_masked]
  rcases engine.ledger.drainWhere _ with ⟨abandoned, ledger⟩
  have swept : ({ engine.masked with ledger := ledger } : Engine).sweep abandoned
        (fun engine record => engine.concludeByItself record (.error .aborted)) =
      maskedReaction ({ engine with ledger := ledger }.sweep abandoned
        fun engine record => engine.concludeByItself record (.error .aborted)) :=
    sweep_masked { engine with ledger := ledger } _
      (fun engine record => concludeByItself_masked engine record (.error .aborted)) abandoned
  simp only [swept]
  rcases Engine.sweep _ abandoned _ with ⟨settled, completions⟩
  simp only [maskedReaction, paths_masked, DataPathTable.terminateAll_masked]
  rfl

theorem settleDisable_masked (outcome : Outcome) :
    engine.masked.settleDisable outcome = maskedSettlement (engine.settleDisable outcome) := by
  unfold settleDisable
  rw [interface_masked]
  rcases engine.interface.completeDisable outcome.isOk with ⟨_ | _, interface⟩
  · rfl
  · have torn : ({ engine.masked with interface := interface } : Engine).teardown .interfaceDisabled =
        maskedReaction ({ engine with interface := interface }.teardown .interfaceDisabled) :=
      teardown_masked { engine with interface := interface } .interfaceDisabled
    simp only [torn]
    rfl

theorem settle_masked (record : TransactionRecord) (outcome : Outcome) :
    engine.masked.settle record outcome = maskedSettlement (engine.settle record outcome) := by
  unfold settle
  split
  · exact settleDisable_masked engine outcome
  · exact settleByItself_masked engine record outcome

theorem conclude_masked (record : TransactionRecord) (outcome : Outcome) :
    engine.masked.conclude record outcome = maskedReaction (engine.conclude record outcome) := by
  unfold conclude
  cases record.origin with
  | engine => exact strikeOff_masked engine record
  | caller => rw [settle_masked, announce_masked]

theorem abandon_masked (records : List TransactionRecord) (failure : Failure) :
    engine.masked.abandon records failure = maskedReaction (engine.abandon records failure) :=
  sweep_masked engine _ (fun engine record => conclude_masked engine record _) records

/-! ## Reports of the firmware and deadlines -/

theorem onCompleted_masked (id : TransactionId) (outcome : Except FirmwareStatus AnswerPayload) :
    engine.masked.onCompleted id outcome = maskedReaction (engine.onCompleted id outcome) := by
  unfold onCompleted
  rw [ledger_masked]
  rcases engine.ledger.resolve id with _ | ⟨record, ledger⟩
  · rfl
  · exact conclude_masked { engine with ledger := ledger } record _

theorem onPathRequested_masked (path : DataPathId) (peer : PeerId) (address : MacAddress)
    (appInfo : ByteArray) (now : Timestamp) :
    engine.masked.onPathRequested path peer address appInfo now =
      maskedReaction (engine.onPathRequested path peer address appInfo now) := by
  unfold onPathRequested
  rw [interface_masked, paths_masked, DataPathTable.onRequest_masked]
  split <;> rfl

theorem onInterfaceDown_masked (status : FirmwareStatus) :
    engine.masked.onInterfaceDown status = maskedReaction (engine.onInterfaceDown status) := by
  unfold onInterfaceDown
  rw [interface_masked, ledger_masked]
  rcases engine.interface.forceDown with ⟨_ | _, interface⟩
  · rfl
  · rcases engine.ledger.drainWhere _ with ⟨superseded, ledger⟩
    have given : ({ engine.masked with interface := interface, ledger := ledger } : Engine).abandon
          superseded .aborted =
        maskedReaction ({ engine with interface := interface, ledger := ledger }.abandon
          superseded .aborted) :=
      abandon_masked { engine with interface := interface, ledger := ledger } superseded .aborted
    simp only [given, maskedReaction, teardown_masked]

/-- **No report of the firmware** makes out a secret. -/
theorem handle_masked (now : Timestamp) (event : FirmwareEvent) :
    engine.masked.handle now event = maskedReaction (engine.handle now event) := by
  cases event with
  | commandCompleted id outcome => exact onCompleted_masked engine id outcome
  | dataPathRequested => exact onPathRequested_masked engine _ _ _ _ _
  | dataPathConfirmed => exact onPathConfirmed_masked engine _ _ _ _ _
  | dataPathTerminated => exact onPathTerminated_masked engine _ _
  | interfaceDown status => exact onInterfaceDown_masked engine status
  | _ => rfl

/-- No deadline does. -/
theorem expireTransactions_masked (now : Timestamp) :
    engine.masked.expireTransactions now =
      ((engine.expireTransactions now).1, maskedReaction (engine.expireTransactions now).2) := by
  unfold expireTransactions
  rw [ledger_masked]
  rcases engine.ledger.expire now with ⟨expired, ledger⟩
  exact congrArg (Prod.mk _) (abandon_masked { engine with ledger := ledger } expired .timeout)

theorem shutdown_masked : engine.masked.shutdown = maskedReaction engine.shutdown := by
  unfold shutdown
  rw [ledger_masked]
  rcases engine.ledger.drainAll with ⟨pending, ledger⟩
  exact abandon_masked { engine with ledger := ledger } pending .aborted

/-! ## Requests -/

end Engine

/-- The command that is ready, with all secrets masked. -/
def Dispatch.masked (dispatch : Dispatch) : Dispatch :=
  { dispatch with command := dispatch.command.masked }

/-- A command of any other kind has no secrets. -/
theorem Command.masked_of_kind {command : Command} (noInitiate : command.kind ≠ .initiateDataPath)
    (noRespond : command.kind ≠ .respondDataPath) : command.masked = command := by
  cases command with
  | initiateDataPath => exact absurd rfl noInitiate
  | respondDataPath => exact absurd rfl noRespond
  | _ => rfl

namespace Engine

variable (engine : Engine)

/-- What follows a check is changed if the check passes. -/
theorem map_check_bind {α β : Type} (check : Verdict) (next : Unit → Except Rejection α)
    (f : α → β) : (check >>= next).map f = check >>= fun passed => (next passed).map f := by
  cases check <;> rfl

theorem vetInitiate_masked (request : InitiateRequest) :
    engine.masked.vetInitiate request.masked =
      (engine.vetInitiate request).map Dispatch.masked := by
  have supported : request.masked.security.checkSupported engine.masked.capabilities.snapshot =
      request.security.checkSupported engine.capabilities.snapshot :=
    request.security.checkSupported_masked _
  unfold vetInitiate
  rw [InitiateRequest.validate_masked, supported, paths_masked, DataPathTable.checkInitiate_masked]
  simp only [map_check_bind]
  rfl

theorem vetRespond_masked (request : RespondRequest) :
    engine.masked.vetRespond request.masked = (engine.vetRespond request).map Dispatch.masked := by
  have acceptance : engine.masked.checkAcceptance request.masked =
      engine.checkAcceptance request := by
    unfold checkAcceptance
    show (_ >>= fun _ => request.security.masked.checkSupported _) = _
    rw [DataPathSecurity.checkSupported_masked]
    rfl
  unfold vetRespond
  rw [RespondRequest.validate_masked, acceptance, paths_masked, DataPathTable.checkRespond_masked]
  simp only [map_check_bind, apply_ite (Except.map Dispatch.masked)]
  rfl

/-- **A request is admitted or refused** as it would be without its secrets, and so is the command
that carries it. -/
theorem vet_masked (request : Request) :
    engine.masked.vet request.masked = (engine.vet request).map Dispatch.masked := by
  -- A command of another kind is the same with its secrets masked, for it has none.
  have plain {request : Request} (noInitiate : request.kind ≠ .initiateDataPath)
      (noRespond : request.kind ≠ .respondDataPath)
      (same : engine.masked.vet request = engine.vet request) :
      engine.masked.vet request = (engine.vet request).map Dispatch.masked := by
    rw [same]
    cases admitted : engine.vet request with
    | error => rfl
    | ok dispatch =>
      rw [← kind_of_vet admitted] at noInitiate noRespond
      have masked : dispatch.masked = dispatch :=
        congrArg (fun command => { dispatch with command := command })
          (Command.masked_of_kind noInitiate noRespond)
      exact congrArg Except.ok masked.symm
  cases request with
  | initiateDataPath request => exact vetInitiate_masked engine request
  | respondDataPath request => exact vetRespond_masked engine request
  | deleteInterface name =>
    refine plain (by rintro ⟨⟩) (by rintro ⟨⟩) ?_
    show engine.masked.vetDelete name = engine.vetDelete name
    rw [vetDelete, paths_masked, DataPathTable.usesInterface_masked]
    rfl
  | endDataPath id =>
    refine plain (by rintro ⟨⟩) (by rintro ⟨⟩) ?_
    show (_ >>= fun _ => engine.paths.masked.checkEnd id >>= _) = _
    rw [DataPathTable.checkEnd_masked]
    rfl
  | _ => exact plain (by rintro ⟨⟩) (by rintro ⟨⟩) rfl

/-- **Entering a request** into the tables takes its secrets along as they are. -/
theorem stage_masked (txn : TransactionId) (request : Request) :
    engine.masked.stage txn request.masked = (engine.stage txn request).masked := by
  cases request with
  | initiateDataPath request =>
    exact congrArg (fun paths => { engine with paths := paths })
      (engine.paths.beginInitiate_masked txn request)
  | respondDataPath request =>
    exact congrArg (fun paths => { engine with paths := paths })
      (engine.paths.beginRespond_masked txn request)
  | endDataPath id =>
    exact congrArg (fun paths => { engine with paths := paths })
      (engine.paths.beginEnd_masked id txn)
  | _ => rfl

end Engine

end NanHost
